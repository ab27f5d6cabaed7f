import Mathlib.Data.List.Sort
import Mathlib.Order.Defs.LinearOrder

namespace Storage

variable {α κ : Type} [LinearOrder κ]

section

variable (key : α → κ)

def notAfter (one other : α) : Bool := key other ≤ key one

def descending (list : List α) : List α := list.mergeSort (notAfter key)

def Descends (list : List α) : Prop := list.Pairwise fun one other => key other ≤ key one

def fibre (list : List α) (value : κ) : List α := list.filter fun element => key element = value

end

variable {key : α → κ} {list other : List α}

theorem notAfter_iff {one other : α} : notAfter key one other = true ↔ key other ≤ key one := decide_eq_true_iff

theorem notAfter_trans (one two three : α) (first : notAfter key one two = true) (second : notAfter key two three = true) :
    notAfter key one three = true := by
  rw [notAfter_iff] at *
  exact le_trans second first

theorem notAfter_total (one other : α) : (notAfter key one other || notAfter key other one) = true := by
  rw [Bool.or_eq_true, notAfter_iff, notAfter_iff]
  exact le_total (key other) (key one)

theorem mem_fibre {element : α} {value : κ} : element ∈ fibre key list value ↔ element ∈ list ∧ key element = value := by
  simp [fibre]

theorem fibre_reverse (value : κ) : fibre key list.reverse value = (fibre key list value).reverse := List.filter_reverse

theorem fibre_cons (element : α) (list : List α) (value : κ) :
    fibre key (element :: list) value = if key element = value then element :: fibre key list value
      else fibre key list value := by
  simp [fibre, List.filter_cons]

theorem descending_perm (list : List α) : (descending key list).Perm list := List.mergeSort_perm list _

theorem descends_descending (list : List α) : Descends key (descending key list) :=
  (List.pairwise_mergeSort notAfter_trans notAfter_total list).imp notAfter_iff.mp

theorem fibre_descending (list : List α) (value : κ) : fibre key (descending key list) value = fibre key list value := by
  have equal : (fibre key list value).Pairwise fun one other => notAfter key one other = true := by
    refine List.pairwise_of_forall_mem_list fun one member other also => ?_
    rw [notAfter_iff, (mem_fibre.mp member).2, (mem_fibre.mp also).2]
  have kept : (fibre key list value).Sublist (descending key list) :=
    List.sublist_mergeSort notAfter_trans notAfter_total equal List.filter_sublist
  have within : (fibre key (fibre key list value) value).Sublist (fibre key (descending key list) value) :=
    kept.filter _
  have again : fibre key (fibre key list value) value = fibre key list value := by
    simp [fibre, List.filter_filter]
  rw [again] at within
  exact (within.eq_of_length ((descending_perm list).filter _).length_eq.symm).symm

theorem Descends.key_le {first : α} (descends : Descends key (first :: list)) {element : α}
    (member : element ∈ first :: list) : key element ≤ key first := by
  rcases List.mem_cons.mp member with rfl | later
  · exact le_refl _
  · exact List.rel_of_pairwise_cons descends later

theorem mem_iff_of_fibres (same : ∀ value, fibre key list value = fibre key other value) (element : α) :
    element ∈ list ↔ element ∈ other := by
  have inside := congrArg (element ∈ ·) (same (key element))
  simpa [mem_fibre] using inside

/-- What descends is known from its fibres. -/
theorem Descends.eq_of_fibres (one : Descends key list) (two : Descends key other)
    (same : ∀ value, fibre key list value = fibre key other value) : list = other := by
  have members := mem_iff_of_fibres same
  induction list generalizing other with
  | nil => exact (List.eq_nil_iff_forall_not_mem.mpr fun element member => by simpa using (members element).mpr member).symm
  | cons first list ih =>
    cases other with
    | nil => exact absurd ((members first).mp List.mem_cons_self) List.not_mem_nil
    | cons head other =>
      -- Both begin with the largest key, and the fibre of that key begins with both heads.
      have keys : key first = key head :=
        le_antisymm (two.key_le ((members first).mp List.mem_cons_self))
          (one.key_le ((members head).mpr List.mem_cons_self))
      have heads := same (key head)
      rw [fibre_cons, fibre_cons, if_pos keys, if_pos rfl] at heads
      obtain ⟨rfl, _⟩ := List.cons.inj heads
      have tails : ∀ value, fibre key list value = fibre key other value := by
        intro value
        have fibres := same value
        rw [fibre_cons, fibre_cons] at fibres
        split at fibres
        · exact (List.cons.inj fibres).2
        · exact fibres
      rw [ih one.of_cons two.of_cons tails (mem_iff_of_fibres tails)]

section Ascending

variable (ascends : list.Pairwise fun one other => key one ≤ key other)
include ascends

/-- An ascending list is turned around by the sort exactly when every fibre reads the same in both directions. -/
theorem descending_eq_reverse_iff :
    descending key list = list.reverse ↔ ∀ value, (fibre key list value).reverse = fibre key list value := by
  constructor
  · intro turned value
    rw [← fibre_reverse, ← turned, fibre_descending]
  · intro palindromes
    refine (descends_descending list).eq_of_fibres (List.pairwise_reverse.mpr ascends) fun value => ?_
    rw [fibre_descending, fibre_reverse, palindromes value]

theorem key_le_of_getLast? {last element : α} (ends : list.getLast? = some last) (member : element ∈ list) :
    key element ≤ key last := by
  obtain ⟨before, rfl⟩ := List.getLast?_eq_some_iff.mp ends
  rcases List.mem_append.mp member with earlier | final
  · exact (List.pairwise_append.mp ascends).2.2 element earlier last List.mem_cons_self
  · rw [List.mem_singleton.mp final]

theorem head?_descending {last : α} (ends : list.getLast? = some last) :
    (descending key list).head? = (fibre key list (key last)).head? := by
  have present : last ∈ descending key list := (descending_perm list).mem_iff.mpr (List.mem_of_getLast? ends)
  have descends : Descends key (descending key list) := descends_descending list
  rw [← fibre_descending]
  cases begins : descending key list with
  | nil => simp [begins] at present
  | cons first rest =>
    have inside : first ∈ list := by
      rw [← (@descending_perm _ _ _ key list).mem_iff, begins]
      exact List.mem_cons_self
    rw [begins] at descends present
    have keys : key first = key last :=
      le_antisymm (key_le_of_getLast? ascends ends inside) (descends.key_le present)
    rw [fibre_cons, if_pos keys, List.head?_cons, List.head?_cons]

end Ascending
end Storage
