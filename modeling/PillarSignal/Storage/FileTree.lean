import PillarSignal.Storage.Table
import Mathlib.Data.List.Infix

namespace Storage

/-- A path lists names from the innermost out to the root: the parent of
    `name :: path` is `path`, and `[]` is the root directory. -/
abbrev Path := List String

inductive Node (α : Type) where
  | dir
  | file (data : α)
deriving DecidableEq, Repr

def Node.data? {α : Type} : Node α → Option α
  | .dir => none
  | .file data => some data

/-- Every entry of a file tree stands in an existing directory. -/
structure FileTree (α : Type) where
  entries : List (Path × Node α)
  root_dir : entries.lookup [] = some .dir
  parent_dir : ∀ name path, (entries.lookup (name :: path)).isSome → entries.lookup path = some .dir

namespace FileTree

variable {α : Type}

def root : FileTree α where
  entries := [([], .dir)]
  root_dir := rfl
  parent_dir := by
    intro name path present
    simp at present

def stat (t : FileTree α) (path : Path) : Option (Node α) := t.entries.lookup path

def contents (t : FileTree α) (path : Path) : Option α := (t.stat path).bind Node.data?

theorem contents_eq_some (t : FileTree α) (path : Path) (data : α) :
    t.contents path = some data ↔ t.stat path = some (.file data) := by
  unfold contents
  rcases t.stat path with _ | _ | _ <;> simp [Node.data?]

def isDir (t : FileTree α) (path : Path) : Bool :=
  match t.stat path with
  | some .dir => true
  | _ => false

theorem isDir_iff (t : FileTree α) (path : Path) : t.isDir path = true ↔ t.stat path = some .dir := by
  unfold isDir
  split <;> simp_all

instance (t : FileTree α) (path : Path) : Decidable (t.stat path = some .dir) :=
  decidable_of_iff _ (t.isDir_iff path)

theorem stat_parent (t : FileTree α) {name : String} {path : Path} (present : (t.stat (name :: path)).isSome) :
    t.stat path = some .dir := t.parent_dir name path present

theorem stat_ancestor (t : FileTree α) {inner outer : Path} (present : (t.stat inner).isSome)
    (below : outer <:+ inner) : (t.stat outer).isSome := by
  induction inner with
  | nil =>
    rw [List.suffix_nil.mp below]
    exact present
  | cons name path ih =>
    rcases List.suffix_cons_iff.mp below with rfl | below
    · exact present
    · exact ih (by rw [t.stat_parent present]; rfl) below

def add (t : FileTree α) (name : String) (path : Path) (node : Node α)
    (parent : t.stat path = some .dir) (leaf : t.stat (name :: path) ≠ some .dir) : FileTree α where
  entries := put (name :: path) node t.entries
  root_dir := by
    rw [lookup_put]
    simpa using t.root_dir
  parent_dir := by
    intro other below present
    rw [lookup_put] at present ⊢
    by_cases same : name :: path = other :: below
    · obtain ⟨rfl, rfl⟩ := List.cons.inj same
      rw [if_neg (by simp)]
      exact parent
    · rw [if_neg same] at present
      have held := t.parent_dir other below present
      by_cases inside : name :: path = below
      · exact absurd (inside ▸ held) leaf
      · rw [if_neg inside]
        exact held

@[simp] theorem stat_add (t : FileTree α) (name : String) (path : Path) (node : Node α)
    (parent : t.stat path = some .dir) (leaf : t.stat (name :: path) ≠ some .dir) (other : Path) :
    (t.add name path node parent leaf).stat other =
      if name :: path = other then some node else t.stat other := lookup_put ..

def mkdir (t : FileTree α) : Path → FileTree α
  | [] => t
  | name :: path =>
    if free : t.stat path = some .dir ∧ t.stat (name :: path) = none then
      t.add name path .dir free.1 (by simp [free.2])
    else t

def mkdirs (t : FileTree α) : Path → FileTree α
  | [] => t
  | name :: path => (t.mkdirs path).mkdir (name :: path)

def write (t : FileTree α) : Path → α → FileTree α
  | [], _ => t
  | name :: path, data =>
    if open_ : t.stat path = some .dir ∧ t.stat (name :: path) ≠ some .dir then
      t.add name path (.file data) open_.1 open_.2
    else t

def children (t : FileTree α) (path : Path) : List String :=
  t.entries.filterMap fun row =>
    match row.1 with
    | [] => none
    | name :: parent => if parent = path then some name else none

theorem mem_children (t : FileTree α) (name : String) (path : Path) :
    name ∈ t.children path ↔ (t.stat (name :: path)).isSome := by
  simp only [children, List.mem_filterMap]
  constructor
  · rintro ⟨⟨row, node⟩, member, selected⟩
    cases row with
    | nil => simp at selected
    | cons first parent =>
      simp only [Option.ite_none_right_eq_some, Option.some.injEq] at selected
      obtain ⟨rfl, rfl⟩ := selected
      exact lookup_isSome_of_mem member
  · intro present
    obtain ⟨node, found⟩ := Option.isSome_iff_exists.mp present
    exact ⟨(name :: path, node), mem_of_lookup found, by simp⟩

def remove (t : FileTree α) : Path → FileTree α
  | [] => t
  | name :: path =>
    if empty : t.children (name :: path) = [] then
      { entries := erase (name :: path) t.entries
        root_dir := by
          rw [lookup_erase, if_neg (by simp)]
          exact t.root_dir
        parent_dir := by
          intro other below present
          rw [lookup_erase] at present ⊢
          by_cases same : name :: path = other :: below
          · simp [same] at present
          · rw [if_neg same] at present
            rw [if_neg]
            · exact t.parent_dir other below present
            · rintro rfl
              have child := (t.mem_children other (name :: path)).mpr present
              simp [empty] at child }
    else t

theorem stat_remove (t : FileTree α) (path other : Path) (inner : path ≠ [])
    (empty : t.children path = []) :
    (t.remove path).stat other = if path = other then none else t.stat other := by
  cases path with
  | nil => exact absurd rfl inner
  | cons name path =>
    simp only [remove, empty, dite_true]
    exact lookup_erase (name :: path) other t.entries

theorem stat_remove_of_ne (t : FileTree α) {path other : Path} (differs : path ≠ other) :
    (t.remove path).stat other = t.stat other := by
  cases path with
  | nil => rfl
  | cons name path =>
    rw [remove]
    split
    · exact (lookup_erase (name :: path) other t.entries).trans (if_neg differs)
    · rfl

def clearDir (t : FileTree α) (dir : Path) : FileTree α :=
  (t.children dir).foldl (fun t name => t.remove (name :: dir)) t

/-- The children of a directory are deleted first, each with everything below it,
    then the directory itself; the depth bound never runs out on `FileTree.depth`. -/
def removeTree (t : FileTree α) : Nat → Path → FileTree α
  | 0, path => t.remove path
  | depth + 1, path =>
    ((t.children path).foldl (fun t name => t.removeTree depth (name :: path)) t).remove path

def depth (t : FileTree α) : Nat := (t.entries.map fun row => row.1.length).foldr max 0

def Bounded (t : FileTree α) (bound : Nat) : Prop :=
  ∀ path, (t.stat path).isSome → path.length ≤ bound

theorem bounded_depth (t : FileTree α) : t.Bounded t.depth := by
  intro path present
  obtain ⟨node, found⟩ := Option.isSome_iff_exists.mp present
  have member : path.length ∈ t.entries.map fun row => row.1.length :=
    List.mem_map.mpr ⟨(path, node), mem_of_lookup found, rfl⟩
  unfold depth
  generalize t.entries.map (fun row => row.1.length) = lengths at member
  induction lengths with
  | nil => cases member
  | cons first rest ih =>
    rcases List.mem_cons.mp member with same | member
    · rw [same]
      exact le_max_left ..
    · exact le_trans (ih member) (le_max_right ..)

theorem children_eq_nil (t : FileTree α) {path : Path} (absent : ∀ name, t.stat (name :: path) = none) :
    t.children path = [] := by
  apply List.eq_nil_iff_forall_not_mem.mpr
  intro name member
  have present := (t.mem_children name path).mp member
  simp [absent] at present

theorem children_file (t : FileTree α) {path : Path} (leaf : t.stat path ≠ some .dir) : t.children path = [] := by
  apply t.children_eq_nil
  intro name
  cases held : t.stat (name :: path) with
  | none => rfl
  | some node => exact absurd (t.stat_parent (by rw [held]; rfl)) leaf

theorem stat_clearDir_of_ne (t : FileTree α) {dir other : Path} (differs : ∀ name, name :: dir ≠ other) :
    (t.clearDir dir).stat other = t.stat other := by
  unfold clearDir
  generalize t.children dir = names
  induction names generalizing t with
  | nil => rfl
  | cons name names ih => rw [List.foldl_cons, ih, t.stat_remove_of_ne (differs name)]

theorem stat_clearDir_leaf (t : FileTree α) {dir : Path} {name : String} (leaf : t.stat (name :: dir) ≠ some .dir) :
    (t.clearDir dir).stat (name :: dir) = none := by
  have sweep : ∀ (names : List String) (u : FileTree α), u.stat (name :: dir) ≠ some .dir →
      name ∈ names ∨ u.stat (name :: dir) = none →
      (names.foldl (fun t name => t.remove (name :: dir)) u).stat (name :: dir) = none := by
    intro names
    induction names with
    | nil =>
      intro u _ gone
      exact gone.resolve_left (by simp)
    | cons first names ih =>
      intro u leaf gone
      rw [List.foldl_cons]
      by_cases same : first = name
      · subst same
        have removed := u.stat_remove (first :: dir) (first :: dir) (by simp) (u.children_file leaf)
        rw [if_pos rfl] at removed
        exact ih _ (by simp [removed]) (.inr removed)
      · have kept : (u.remove (first :: dir)).stat (name :: dir) = u.stat (name :: dir) :=
          u.stat_remove_of_ne (by simp [same])
        rw [← kept] at leaf
        apply ih _ leaf
        rcases gone with member | gone
        · exact .inl ((List.mem_cons.mp member).resolve_left (Ne.symm same))
        · exact .inr (kept.trans gone)
  apply sweep _ t leaf
  cases held : t.stat (name :: dir) with
  | none => exact .inr rfl
  | some node => exact .inl ((t.mem_children name dir).mpr (by rw [held]; rfl))

theorem stat_clearDir_of_some (t : FileTree α) {dir other : Path} {node : Node α}
    (held : (t.clearDir dir).stat other = some node) : t.stat other = some node := by
  unfold clearDir at held
  generalize t.children dir = names at held
  induction names generalizing t with
  | nil => exact held
  | cons name names ih =>
    have before : (t.remove (name :: dir)).stat other = some node := ih _ held
    by_cases same : name :: dir = other
    · rw [remove] at before
      split at before
      · have gone := (lookup_erase (name :: dir) other t.entries).trans (if_pos same)
        exact absurd (before.symm.trans gone) (by simp)
      · exact before
    · rwa [t.stat_remove_of_ne same] at before

theorem stat_sweep (path : Path) (depth : Nat)
    (exact_ : ∀ (u : FileTree α) (name : String), u.Bounded (path.length + 1 + depth) → ∀ other,
      (u.removeTree depth (name :: path)).stat other = if name :: path <:+ other then none else u.stat other)
    (names : List String) (t : FileTree α) (bound : t.Bounded (path.length + 1 + depth)) (other : Path) :
    (names.foldl (fun t name => t.removeTree depth (name :: path)) t).stat other =
      if ∃ name ∈ names, name :: path <:+ other then none else t.stat other := by
  induction names generalizing t with
  | nil => simp
  | cons first rest ih =>
    have step := exact_ t first bound
    have still : (t.removeTree depth (first :: path)).Bounded (path.length + 1 + depth) := by
      intro below present
      rw [step] at present
      split at present
      · cases present
      · exact bound below present
    rw [List.foldl_cons, ih _ still, step]
    by_cases hit : first :: path <:+ other <;> simp [hit]

theorem Bounded.stat_below {t : FileTree α} {path other : Path} (bound : t.Bounded path.length) (below : path <:+ other)
    (apart : path ≠ other) : t.stat other = none := by
  cases held : t.stat other with
  | none => rfl
  | some node =>
    have short := bound other (by simp [held])
    exact absurd (below.eq_of_length_le short) apart

theorem stat_below_children (t : FileTree α) {path other : Path} (below : path <:+ other) (apart : path ≠ other)
    (spared : ¬ ∃ name ∈ t.children path, name :: path <:+ other) : t.stat other = none := by
  cases held : t.stat other with
  | none => rfl
  | some node =>
    obtain ⟨front, rfl⟩ := below
    rcases List.eq_nil_or_concat' front with rfl | ⟨outer, name, rfl⟩
    · exact absurd rfl apart
    · have onward : name :: path <:+ outer ++ [name] ++ path := ⟨outer, by simp⟩
      have child := t.stat_ancestor (by rw [held]; rfl) onward
      exact absurd ⟨name, (t.mem_children name path).mpr child, onward⟩ spared

theorem stat_removeTree (t : FileTree α) (depth : Nat) (path : Path) (inner : path ≠ [])
    (bound : t.Bounded (path.length + depth)) (other : Path) :
    (t.removeTree depth path).stat other = if path <:+ other then none else t.stat other := by
  induction depth generalizing t path other with
  | zero =>
    have empty : t.children path = [] :=
      t.children_eq_nil fun name => bound.stat_below (List.suffix_cons name path) (by simp)
    rw [removeTree, stat_remove t path other inner empty]
    by_cases same : path = other
    · simp [same]
    · rw [if_neg same]
      split
      · rename_i below
        exact bound.stat_below below same
      · rfl
  | succ depth ih =>
    have wide : t.Bounded (path.length + 1 + depth) := by
      intro below present
      have := bound below present
      omega
    have after := stat_sweep path depth (fun u name short => ih u (name :: path) (by simp) short)
      (t.children path) t wide
    -- the sweep leaves nothing strictly below the directory
    have swept : ∀ {lower : Path}, path <:+ lower → path ≠ lower →
        ((t.children path).foldl (fun t name => t.removeTree depth (name :: path)) t).stat lower = none := by
      intro lower below apart
      rw [after]
      split
      · rfl
      · rename_i spared
        exact t.stat_below_children below apart spared
    have empty : ((t.children path).foldl (fun t name => t.removeTree depth (name :: path)) t).children path = [] :=
      children_eq_nil _ fun name => swept (List.suffix_cons name path) (by simp)
    rw [removeTree, stat_remove _ path other inner empty]
    by_cases same : path = other
    · simp [same]
    · rw [if_neg same]
      by_cases below : path <:+ other
      · rw [if_pos below, swept below same]
      · rw [if_neg below, after, if_neg]
        rintro ⟨name, _, onward⟩
        exact below ((List.suffix_cons name path).trans onward)

theorem stat_removeTree_of_not_suffix (t : FileTree α) (depth : Nat) {path other : Path} (beside : ¬ path <:+ other) :
    (t.removeTree depth path).stat other = t.stat other := by
  have differs : path ≠ other := fun same => beside (same ▸ List.suffix_rfl)
  induction depth generalizing t path with
  | zero => exact t.stat_remove_of_ne differs
  | succ depth ih =>
    rw [removeTree, stat_remove_of_ne _ differs]
    generalize t.children path = names
    induction names generalizing t with
    | nil => rfl
    | cons name names sweep =>
      have lower : ¬ name :: path <:+ other := fun below => beside ((List.suffix_cons name path).trans below)
      rw [List.foldl_cons, sweep]
      exact ih t lower fun same => lower (same ▸ List.suffix_rfl)

def deleteRecursive (t : FileTree α) (path : Path) : FileTree α := t.removeTree t.depth path

theorem stat_deleteRecursive (t : FileTree α) (path other : Path) (inner : path ≠ []) :
    (t.deleteRecursive path).stat other = if path <:+ other then none else t.stat other := by
  apply stat_removeTree t t.depth path inner
  intro below present
  have := t.bounded_depth below present
  omega

theorem stat_mkdir (t : FileTree α) (name : String) (path other : Path) :
    (t.mkdir (name :: path)).stat other =
      if name :: path = other ∧ t.stat path = some .dir ∧ t.stat (name :: path) = none then some .dir
      else t.stat other := by
  rw [mkdir]
  split
  · rename_i free
    simp [free]
  · rename_i taken
    rw [if_neg (fun h => taken h.2)]

/-- No file stands in the place of a directory on the way to `path`. -/
def Clear (t : FileTree α) (path : Path) : Prop :=
  ∀ outer, outer <:+ path → t.stat outer = none ∨ t.stat outer = some .dir

theorem Clear.parent {t : FileTree α} {name : String} {path : Path} (clear : t.Clear (name :: path)) :
    t.Clear path := fun outer below => clear outer (below.trans (List.suffix_cons name path))

theorem Clear.of_dir {t : FileTree α} {path : Path} (dir : t.stat path = some .dir) : t.Clear path := by
  intro outer below
  rcases Nat.eq_or_lt_of_le below.length_le with same | shorter
  · rw [below.eq_of_length same]
    exact .inr dir
  · obtain ⟨front, rfl⟩ := below
    rcases List.eq_nil_or_concat' front with rfl | ⟨inner, name, rfl⟩
    · simp at shorter
    · have onward : name :: outer <:+ inner ++ [name] ++ outer := ⟨inner, by simp⟩
      exact .inr (t.stat_parent (t.stat_ancestor (by rw [dir]; rfl) onward))

theorem not_cons_suffix (name : String) (path : Path) : ¬ name :: path <:+ path := by
  intro below
  have longer := below.length_le
  rw [List.length_cons] at longer
  omega

@[simp] theorem stat_root (t : FileTree α) : t.stat [] = some .dir := t.root_dir

theorem stat_mkdirs (t : FileTree α) {path : Path} (clear : t.Clear path) (other : Path) :
    (t.mkdirs path).stat other = if other <:+ path then some .dir else t.stat other := by
  induction path generalizing other with
  | nil =>
    by_cases same : other = []
    · subst same
      simp [mkdirs]
    · simp [mkdirs, same]
  | cons name path ih =>
    have before := ih clear.parent
    have parent : (t.mkdirs path).stat path = some .dir := by simp [before]
    have own : (t.mkdirs path).stat (name :: path) = t.stat (name :: path) := by
      rw [before, if_neg (not_cons_suffix name path)]
    rw [mkdirs, stat_mkdir]
    simp only [parent, own, before, true_and]
    by_cases same : name :: path = other
    · subst same
      rcases clear _ List.suffix_rfl with absent | dir
      · simp [absent]
      · simp [dir]
    · simp [same, List.suffix_cons_iff, Ne.symm same]

theorem stat_mkdirs_of_isSome (t : FileTree α) (path other : Path) (present : (t.stat other).isSome) :
    (t.mkdirs path).stat other = t.stat other := by
  induction path with
  | nil => rfl
  | cons name path ih =>
    rw [mkdirs, stat_mkdir, ih, if_neg]
    rintro ⟨rfl, _, absent⟩
    rw [ih] at absent
    simp [absent] at present

theorem stat_mkdirs_of_not_suffix (t : FileTree α) {path other : Path} (beside : ¬ other <:+ path) :
    (t.mkdirs path).stat other = t.stat other := by
  induction path with
  | nil => rfl
  | cons name path ih =>
    rw [mkdirs, stat_mkdir, if_neg, ih]
    · exact fun below => beside (below.trans (List.suffix_cons name path))
    · rintro ⟨rfl, _⟩
      exact beside List.suffix_rfl

theorem stat_mkdirs_file (t : FileTree α) (path other : Path) (data : α) :
    (t.mkdirs path).stat other = some (.file data) ↔ t.stat other = some (.file data) := by
  constructor
  · intro held
    induction path with
    | nil => exact held
    | cons name path ih =>
      rw [mkdirs, stat_mkdir] at held
      split at held
      · cases held
      · exact ih held
  · intro held
    rw [t.stat_mkdirs_of_isSome path other (by rw [held]; rfl), held]

@[simp] theorem contents_mkdirs (t : FileTree α) (path other : Path) :
    (t.mkdirs path).contents other = t.contents other := by
  apply Option.ext
  intro data
  rw [contents_eq_some, contents_eq_some, stat_mkdirs_file]

theorem stat_write (t : FileTree α) {name : String} {path : Path} (data : α)
    (parent : t.stat path = some .dir) (leaf : t.stat (name :: path) ≠ some .dir) (other : Path) :
    (t.write (name :: path) data).stat other =
      if name :: path = other then some (.file data) else t.stat other := by
  simp [write, parent, leaf]

theorem stat_write_of_ne (t : FileTree α) {path other : Path} (data : α) (beside : path ≠ other) :
    (t.write path data).stat other = t.stat other := by
  cases path with
  | nil => rfl
  | cons name path =>
    rw [write]
    split
    · simp [beside]
    · rfl

theorem stat_write_dir (t : FileTree α) (path other : Path) (data : α) :
    (t.write path data).stat other = some .dir ↔ t.stat other = some .dir := by
  cases path with
  | nil => rfl
  | cons name path =>
    rw [write]
    split
    · rename_i opened
      rw [stat_add]
      split
      · rename_i same
        subst same
        simp [opened.2]
      · rfl
    · rfl

end FileTree
end Storage
