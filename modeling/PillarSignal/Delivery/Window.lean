import Mathlib.Data.List.Nodup
import Mathlib.Data.List.Perm.Subperm

namespace Delivery

variable {α β : Type}

/-- Append to a list that keeps its newest `bound` values. -/
@[irreducible] def push (bound : Nat) (values : List α) (value : α) : List α :=
  (values ++ [value]).drop ((values ++ [value]).length - bound)

def pushAll (bound : Nat) (values added : List α) : List α := added.foldl (push bound) values

theorem map_push (f : α → β) (bound : Nat) (values : List α) (value : α) :
    (push bound values value).map f = push bound (values.map f) (f value) := by
  simp [push, List.map_drop]

theorem push_suffix (bound : Nat) (values : List α) (value : α) : push bound values value <:+ values ++ [value] := by
  rw [push]
  exact List.drop_suffix ..

theorem length_push (bound : Nat) (values : List α) (value : α) :
    (push bound values value).length = min (values.length + 1) bound := by
  rw [push, List.length_drop, List.length_append, List.length_singleton]
  omega

theorem length_push_le (bound : Nat) (values : List α) (value : α) : (push bound values value).length ≤ bound := by
  rw [length_push]
  exact Nat.min_le_right ..

theorem push_of_lt {bound : Nat} {values : List α} (room : values.length < bound) (value : α) :
    push bound values value = values ++ [value] := by
  rw [push, List.length_append, List.length_singleton, Nat.sub_eq_zero_of_le room, List.drop_zero]

theorem push_eq_append {bound : Nat} (positive : 0 < bound) (values : List α) (value : α) :
    push bound values value = values.drop (values.length + 1 - bound) ++ [value] := by
  rw [push, List.length_append, List.length_singleton, List.drop_append_of_le_length (by omega)]

theorem pushAll_cons (bound : Nat) (values : List α) (value : α) (added : List α) :
    pushAll bound values (value :: added) = pushAll bound (push bound values value) added := rfl

theorem map_pushAll (f : α → β) (bound : Nat) (values added : List α) :
    (pushAll bound values added).map f = pushAll bound (values.map f) (added.map f) := by
  unfold pushAll
  induction added generalizing values with
  | nil => rfl
  | cons value added ih => rw [List.foldl_cons, ih, map_push, List.map_cons, List.foldl_cons]

theorem pushAll_suffix (bound : Nat) (values added : List α) : pushAll bound values added <:+ values ++ added := by
  unfold pushAll
  induction added generalizing values with
  | nil => simp
  | cons value added ih =>
    rw [List.foldl_cons, ← List.singleton_append, ← List.append_assoc]
    obtain ⟨dropped, whole⟩ := push_suffix bound values value
    refine (ih _).trans ⟨dropped, ?_⟩
    rw [← List.append_assoc, whole]

theorem length_pushAll_le {bound : Nat} {values : List α} (few : values.length ≤ bound) (added : List α) :
    (pushAll bound values added).length ≤ bound := by
  unfold pushAll
  induction added generalizing values with
  | nil => exact few
  | cons value added ih =>
    exact ih (length_push_le ..)

theorem pushAll_of_le {bound : Nat} {values added : List α} (room : values.length + added.length ≤ bound) :
    pushAll bound values added = values ++ added := by
  unfold pushAll
  induction added generalizing values with
  | nil => simp
  | cons value added ih =>
    rw [List.length_cons] at room
    rw [List.foldl_cons, push_of_lt (by omega), ih (by simp; omega), List.append_assoc, List.singleton_append]

/-- How much a receiver remembers: the chains it follows, the counters it keeps of each, and how
    far ahead of the last one a counter may be. -/
structure Limits where
  chains : Nat
  kept : Nat
  reach : Nat
  some_chain : 0 < chains
deriving DecidableEq

/-- Why a message is not accepted: its counter was used up, it is too far ahead, or it belongs to a
    chain that is not followed any more. -/
inductive Refusal where
  | duplicate
  | distant
  | stray
deriving DecidableEq, Repr

/-- The counters of one chain that a receiver has yet to see: all from `next` on, and of those
    before it the ones that were skipped and are kept. -/
structure Window (limits : Limits) where
  next : Nat
  kept : List Nat
  increasing : kept.Pairwise (· < ·)
  below : ∀ counter ∈ kept, counter < next
  bounded : kept.length ≤ limits.kept
deriving DecidableEq

namespace Window

variable {limits : Limits}

def empty : Window limits where
  next := 0
  kept := []
  increasing := .nil
  below := by simp
  bounded := Nat.zero_le _

def take (window : Window limits) (counter : Nat) : Window limits where
  next := window.next
  kept := window.kept.erase counter
  increasing := window.increasing.sublist List.erase_sublist
  below _ member := window.below _ (List.mem_of_mem_erase member)
  bounded := Nat.le_trans List.erase_sublist.length_le window.bounded

def skipped (window : Window limits) (counter : Nat) : List Nat :=
  window.kept ++ List.range' window.next (counter - window.next)

theorem skipped_increasing (window : Window limits) (counter : Nat) : (window.skipped counter).Pairwise (· < ·) := by
  refine List.pairwise_append.mpr ⟨window.increasing, List.pairwise_lt_range', ?_⟩
  intro old kept new ahead
  have before := window.below old kept
  have after := (List.mem_range'_1.mp ahead).1
  omega

theorem mem_skipped {window : Window limits} {counter : Nat} (ahead : window.next ≤ counter) {other : Nat} :
    other ∈ window.skipped counter ↔ other ∈ window.kept ∨ window.next ≤ other ∧ other < counter := by
  rw [skipped, List.mem_append, List.mem_range'_1, Nat.add_sub_of_le ahead]

theorem lt_of_mem_skipped {window : Window limits} {counter : Nat} (ahead : window.next ≤ counter) {other : Nat}
    (member : other ∈ window.skipped counter) : other < counter := by
  rcases (mem_skipped ahead).mp member with kept | between
  · exact Nat.lt_of_lt_of_le (window.below other kept) ahead
  · exact between.2

def skipTo (window : Window limits) (counter : Nat) (ahead : window.next ≤ counter) : Window limits where
  next := counter + 1
  kept := pushAll limits.kept window.kept (List.range' window.next (counter - window.next))
  increasing := (window.skipped_increasing counter).sublist (pushAll_suffix ..).sublist
  below other member := by
    have before := lt_of_mem_skipped ahead ((pushAll_suffix ..).subset member)
    omega
  bounded := length_pushAll_le window.bounded _

def accept (window : Window limits) (counter : Nat) : Except Refusal (Window limits) :=
  if ahead : window.next ≤ counter then
    if counter - window.next ≤ limits.reach then .ok (window.skipTo counter ahead) else .error .distant
  else if counter ∈ window.kept then .ok (window.take counter) else .error .duplicate

def Open (window : Window limits) (counter : Nat) : Prop := window.next ≤ counter ∨ counter ∈ window.kept

instance (window : Window limits) (counter : Nat) : Decidable (window.Open counter) :=
  inferInstanceAs (Decidable (_ ∨ _))

theorem accept_cases {window after : Window limits} {counter : Nat} (accepted : window.accept counter = .ok after) :
    (∃ ahead : window.next ≤ counter, counter - window.next ≤ limits.reach ∧ after = window.skipTo counter ahead) ∨
      (counter ∈ window.kept ∧ after = window.take counter) := by
  unfold accept at accepted
  split at accepted
  next ahead =>
    split at accepted
    next near => exact .inl ⟨ahead, near, (Except.ok.inj accepted).symm⟩
    next => cases accepted
  next =>
    split at accepted
    next kept => exact .inr ⟨kept, (Except.ok.inj accepted).symm⟩
    next => cases accepted

theorem accept_of_open {window : Window limits} {counter : Nat} (fresh : window.Open counter)
    (near : counter - window.next ≤ limits.reach) : ∃ after, window.accept counter = .ok after := by
  unfold accept
  rcases fresh with ahead | kept
  · exact ⟨_, by rw [dif_pos ahead, if_pos near]⟩
  · have before := window.below counter kept
    exact ⟨_, by rw [dif_neg (by omega), if_pos kept]⟩

theorem accept_of_not_open {window : Window limits} {counter : Nat} (spent : ¬ window.Open counter) :
    window.accept counter = .error .duplicate := by
  rw [Open, not_or] at spent
  rw [accept, dif_neg spent.1, if_neg spent.2]

theorem accept_ne_stray {window : Window limits} {counter : Nat} : window.accept counter ≠ .error .stray := by
  intro stray
  unfold accept at stray
  split at stray
  · split at stray <;> cases stray
  · split at stray <;> cases stray

theorem open_take {window : Window limits} {counter : Nat} (kept : counter ∈ window.kept) (other : Nat) :
    (window.take counter).Open other ↔ window.Open other ∧ other ≠ counter := by
  have before := window.below counter kept
  have distinct : window.kept.Nodup := window.increasing.imp Nat.ne_of_lt
  rw [Open, Open, take, distinct.mem_erase_iff]
  constructor
  · rintro (ahead | ⟨different, member⟩)
    · have ahead : window.next ≤ other := ahead
      exact ⟨.inl ahead, by omega⟩
    · exact ⟨.inr member, different⟩
  · rintro ⟨ahead | member, different⟩
    · exact .inl ahead
    · exact .inr ⟨different, member⟩

theorem open_of_open_skipTo {window : Window limits} {counter : Nat} (ahead : window.next ≤ counter) {other : Nat}
    (after : (window.skipTo counter ahead).Open other) : window.Open other ∧ other ≠ counter := by
  rcases after with later | kept
  · have later : counter + 1 ≤ other := later
    exact ⟨.inl (by omega), by omega⟩
  · have member : other ∈ window.skipped counter := (pushAll_suffix ..).subset kept
    refine ⟨?_, Nat.ne_of_lt (lt_of_mem_skipped ahead member)⟩
    rcases (mem_skipped ahead).mp member with old | between
    · exact .inr old
    · exact .inl between.1

theorem open_of_accept {window after : Window limits} {counter other : Nat} (accepted : window.accept counter = .ok after)
    (still : after.Open other) : window.Open other ∧ other ≠ counter := by
  rcases accept_cases accepted with ⟨ahead, -, rfl⟩ | ⟨kept, rfl⟩
  · exact open_of_open_skipTo ahead still
  · exact (open_take kept other).mp still

/-- As long as the counters of a chain do not exceed the number of those that are kept, accepting
    one closes that one only. -/
theorem open_accept_iff {window after : Window limits} {counter : Nat} (accepted : window.accept counter = .ok after)
    (small : counter ≤ limits.kept) (other : Nat) : after.Open other ↔ window.Open other ∧ other ≠ counter := by
  refine ⟨open_of_accept accepted, ?_⟩
  rcases accept_cases accepted with ⟨ahead, -, rfl⟩ | ⟨kept, rfl⟩
  · rintro ⟨before, different⟩
    have distinct : (window.skipped counter).Nodup := (window.skipped_increasing counter).imp Nat.ne_of_lt
    have within : window.skipped counter ⊆ List.range counter := fun value member =>
      List.mem_range.mpr (lt_of_mem_skipped ahead member)
    have few : (window.skipped counter).length ≤ counter := by
      simpa using (distinct.subperm within).length_le
    rw [skipped, List.length_append] at few
    have all : (window.skipTo counter ahead).kept = window.skipped counter := pushAll_of_le (Nat.le_trans few small)
    by_cases later : counter < other
    · exact .inl later
    · refine .inr ?_
      rw [all, mem_skipped ahead]
      rcases before with next | old
      · exact .inr ⟨next, by omega⟩
      · exact .inl old
  · exact (open_take kept other).mpr

theorem accept_next {window after : Window limits} {counter : Nat} (accepted : window.accept counter = .ok after) :
    after.next ≤ max window.next (counter + 1) := by
  rcases accept_cases accepted with ⟨ahead, -, rfl⟩ | ⟨kept, rfl⟩
  · exact Nat.le_max_right ..
  · exact Nat.le_max_left ..

end Window
end Delivery
