import Mathlib.Data.Finmap

namespace Storage

variable {κ α : Type} [BEq κ] [LawfulBEq κ] [DecidableEq κ]

/-- A keyed table is an association list: a put keeps the place of a key that is
    already there, and the order of first insertion is the order of the rows. -/
def put (key : κ) (value : α) : List (κ × α) → List (κ × α)
  | [] => [(key, value)]
  | (other, old) :: rows =>
    if other = key then (key, value) :: rows else (other, old) :: put key value rows

def erase (key : κ) (rows : List (κ × α)) : List (κ × α) :=
  rows.filter fun row => row.1 ≠ key

theorem lookup_cons_ite (key other : κ) (value : α) (rows : List (κ × α)) :
    ((other, value) :: rows).lookup key = if other = key then some value else rows.lookup key := by
  rw [List.lookup_cons]
  by_cases same : key = other
  · simp [same]
  · have differs : (key == other) = false := beq_eq_false_iff_ne.mpr same
    simp [differs, Ne.symm same]

theorem lookup_put (key other : κ) (value : α) (rows : List (κ × α)) :
    (put key value rows).lookup other = if key = other then some value else rows.lookup other := by
  induction rows with
  | nil => rw [put, lookup_cons_ite]
  | cons row rows ih =>
    obtain ⟨name, old⟩ := row
    by_cases same : name = key
    · subst same
      by_cases hit : name = other <;> simp [put, lookup_cons_ite, hit]
    · simp only [put, same, if_false, lookup_cons_ite, ih]
      by_cases hit : name = other
      · subst hit
        simp [Ne.symm same]
      · simp [hit]

@[simp] theorem lookup_put_self (key : κ) (value : α) (rows : List (κ × α)) :
    (put key value rows).lookup key = some value := by
  simp [lookup_put]

theorem lookup_filter_key (keep : κ → Bool) (key : κ) (rows : List (κ × α)) :
    (rows.filter fun row => keep row.1).lookup key = if keep key then rows.lookup key else none := by
  induction rows with
  | nil => simp
  | cons row rows ih =>
    obtain ⟨name, value⟩ := row
    by_cases same : name = key
    · subst same
      by_cases kept : keep name = true
      · simp [kept]
      · simp only [List.filter_cons, kept, Bool.false_eq_true, if_false] at ih ⊢
        exact ih
    · by_cases kept : keep name = true
      · simp only [List.filter_cons, kept, if_true, lookup_cons_ite, same, if_false, ih]
      · simp only [List.filter_cons, kept, lookup_cons_ite, same, Bool.false_eq_true, if_false, ih]

theorem lookup_erase (key other : κ) (rows : List (κ × α)) :
    (erase key rows).lookup other = if key = other then none else rows.lookup other := by
  unfold erase
  rw [lookup_filter_key (fun name => decide (name ≠ key))]
  by_cases same : key = other
  · simp [same]
  · simp [same, Ne.symm same]

theorem lookup_isSome_of_mem {key : κ} {value : α} {rows : List (κ × α)}
    (member : (key, value) ∈ rows) : (rows.lookup key).isSome := by
  induction rows with
  | nil => cases member
  | cons row rows ih =>
    obtain ⟨name, old⟩ := row
    rw [lookup_cons_ite]
    split
    · rfl
    · rename_i other
      rcases List.mem_cons.mp member with same | member
      · cases same
        exact absurd rfl other
      · exact ih member

omit [DecidableEq κ] in
theorem mem_of_lookup {key : κ} {value : α} {rows : List (κ × α)}
    (found : rows.lookup key = some value) : (key, value) ∈ rows := by
  obtain ⟨before, after, rfl, _⟩ := List.lookup_eq_some_iff.mp found
  simp

omit [BEq κ] [LawfulBEq κ] in
theorem mem_put {key : κ} {value : α} {rows : List (κ × α)} {row : κ × α} (member : row ∈ put key value rows) :
    row = (key, value) ∨ row ∈ rows := by
  induction rows with
  | nil => exact .inl (List.mem_singleton.mp member)
  | cons first rows ih =>
    rw [put] at member
    split at member
    · rcases List.mem_cons.mp member with new | later
      · exact .inl new
      · exact .inr (List.mem_cons_of_mem _ later)
    · rcases List.mem_cons.mp member with rfl | later
      · exact .inr List.mem_cons_self
      · exact (ih later).imp_right (List.mem_cons_of_mem _)

omit [BEq κ] [LawfulBEq κ] in
theorem nodup_keys_put {rows : List (κ × α)} (distinct : (rows.map Prod.fst).Nodup) (key : κ) (value : α) :
    ((put key value rows).map Prod.fst).Nodup := by
  induction rows with
  | nil => simp [put]
  | cons row rows ih =>
    obtain ⟨first, rest⟩ := List.nodup_cons.mp distinct
    rw [put]
    split
    · rename_i same
      rw [same] at first
      exact List.nodup_cons.mpr ⟨first, rest⟩
    · rename_i differs
      refine List.nodup_cons.mpr ⟨fun member => ?_, ih rest⟩
      obtain ⟨other, held, same⟩ := List.mem_map.mp member
      rcases mem_put held with new | later
      · rw [new] at same
        exact differs same.symm
      · exact first (List.mem_map.mpr ⟨other, later, same⟩)

section Coded

variable {κ ι α β : Type} [DecidableEq κ] [DecidableEq ι]

/-- A table holds, row by row, the contents that decode to the values of another one, under names made from its keys. -/
def Codes (nameOf : κ → ι) (decode : β → Option α) : List (κ × α) → List (ι × β) → Prop :=
  List.Forall₂ fun row member => member.1 = nameOf row.1 ∧ decode member.2 = some row.2

variable {nameOf : κ → ι} {decode : β → Option α} {rows : List (κ × α)} {members : List (ι × β)} {key : κ}

theorem Codes.lookup [BEq κ] [LawfulBEq κ] [BEq ι] [LawfulBEq ι] (coded : Codes nameOf decode rows members)
    (alone : ∀ row ∈ rows, nameOf row.1 = nameOf key → row.1 = key) :
    (members.lookup (nameOf key)).bind decode = rows.lookup key ∧
      (members.lookup (nameOf key)).isSome = (rows.lookup key).isSome := by
  induction coded with
  | nil => exact ⟨rfl, rfl⟩
  | @cons row member rows members head _ ih =>
    obtain ⟨name, value⟩ := row
    obtain ⟨_, content⟩ := member
    obtain ⟨rfl, decodes⟩ := head
    have later := ih fun other held => alone other (List.mem_cons_of_mem _ held)
    rw [lookup_cons_ite, lookup_cons_ite]
    by_cases same : name = key
    · rw [if_pos same, if_pos (congrArg nameOf same)]
      exact ⟨decodes, rfl⟩
    · have apart : ¬ nameOf name = nameOf key := fun hit => same (alone (name, value) List.mem_cons_self hit)
      rw [if_neg same, if_neg apart]
      exact later

theorem Codes.put (coded : Codes nameOf decode rows members)
    (alone : ∀ row ∈ rows, nameOf row.1 = nameOf key → row.1 = key) {value : α} {content : β}
    (decodes : decode content = some value) :
    Codes nameOf decode (put key value rows) (put (nameOf key) content members) := by
  induction coded with
  | nil => exact .cons ⟨rfl, decodes⟩ .nil
  | @cons row member rows members head tail ih =>
    obtain ⟨name, old⟩ := row
    obtain ⟨_, held⟩ := member
    obtain ⟨rfl, before⟩ := head
    have later := ih fun other member => alone other (List.mem_cons_of_mem _ member)
    rw [Storage.put, Storage.put]
    by_cases same : name = key
    · rw [if_pos same, if_pos (congrArg nameOf same)]
      exact .cons ⟨rfl, decodes⟩ tail
    · have apart : ¬ nameOf name = nameOf key := fun hit => same (alone (name, old) List.mem_cons_self hit)
      rw [if_neg same, if_neg apart]
      exact .cons ⟨rfl, before⟩ later

theorem Codes.erase (coded : Codes nameOf decode rows members)
    (alone : ∀ row ∈ rows, nameOf row.1 = nameOf key → row.1 = key) :
    Codes nameOf decode (erase key rows) (erase (nameOf key) members) := by
  induction coded with
  | nil => exact .nil
  | @cons row member rows members head tail ih =>
    obtain ⟨name, old⟩ := row
    obtain ⟨_, held⟩ := member
    obtain ⟨rfl, before⟩ := head
    have later := ih fun other member => alone other (List.mem_cons_of_mem _ member)
    by_cases same : name = key
    · simpa [Storage.erase, same] using later
    · have apart : ¬ nameOf name = nameOf key := fun hit => same (alone (name, old) List.mem_cons_self hit)
      simp only [Storage.erase, List.filter_cons, ne_eq, same, apart, not_false_eq_true, decide_true, if_true] at later ⊢
      exact .cons ⟨rfl, before⟩ later

omit [DecidableEq κ] [DecidableEq ι] in
theorem Codes.names (coded : Codes nameOf decode rows members) :
    members.map Prod.fst = (rows.map Prod.fst).map nameOf := by
  induction coded with
  | nil => rfl
  | cons head _ ih => rw [List.map_cons, List.map_cons, List.map_cons, head.1, ih]

end Coded

section FiniteMap

variable {κ α β : Type} [DecidableEq κ]

def Reads (view : Option α → β) (load : κ → β) (map : Finmap fun _ : κ => α) : Prop :=
  ∀ key, load key = view (map.lookup key)

variable {view : Option α → β} {load after : κ → β} {map : Finmap fun _ : κ => α}

theorem Reads.congr (reads : Reads view load map) (same : ∀ key, after key = load key) : Reads view after map :=
  fun key => (same key).trans (reads key)

def assign (key : κ) : Option α → (Finmap fun _ : κ => α) → Finmap fun _ : κ => α
  | some value, map => map.insert key value
  | none, map => map.erase key

theorem lookup_assign (key other : κ) (value : Option α) (map : Finmap fun _ : κ => α) :
    (assign key value map).lookup other = if key = other then value else map.lookup other := by
  by_cases same : key = other
  · subst same
    rw [if_pos rfl]
    cases value with
    | none => exact Finmap.lookup_erase key map
    | some value => exact Finmap.lookup_insert map
  · rw [if_neg same]
    cases value with
    | none => exact Finmap.lookup_erase_ne (Ne.symm same)
    | some value => exact Finmap.lookup_insert_of_ne map (Ne.symm same)

theorem Reads.assign (reads : Reads view load map) {key : κ} {value : Option α}
    (stored : ∀ other, after other = if key = other then view value else load other) :
    Reads view after (assign key value map) := by
  intro other
  rw [stored, lookup_assign, apply_ite view, reads]

theorem dlookup_rows (rows : List (κ × α)) (key : κ) :
    (rows.map fun row => (⟨row.1, row.2⟩ : Sigma fun _ : κ => α)).dlookup key = rows.lookup key := by
  induction rows with
  | nil => rfl
  | cons row rows ih =>
    obtain ⟨name, value⟩ := row
    rw [lookup_cons_ite, List.map_cons]
    by_cases same : name = key
    · subst same
      rw [if_pos rfl, List.dlookup_cons_eq]
    · rw [if_neg same, List.dlookup_cons_ne _ _ (Ne.symm same), ih]

/-- A map that is read like a table of distinct keys holds the values of its rows and no others. -/
theorem values_of_lookup {rows : List (κ × α)} (distinct : (rows.map Prod.fst).Nodup)
    (reads : ∀ key, map.lookup key = rows.lookup key) :
    map.entries.map Sigma.snd = (rows.map Prod.snd : Multiset α) := by
  let pairs := rows.map fun row => (⟨row.1, row.2⟩ : Sigma fun _ : κ => α)
  have keys : pairs.NodupKeys := by
    rw [List.NodupKeys, List.keys, List.map_map]
    exact distinct
  have same : map = (AList.mk pairs keys).toFinmap := by
    apply Finmap.ext_lookup
    intro key
    rw [reads, Finmap.lookup_toFinmap]
    exact (dlookup_rows rows key).symm
  rw [same, AList.toFinmap_entries, Multiset.map_coe, List.map_map]
  rfl

end FiniteMap

end Storage
