import PillarSignal.Storage.FileTree

namespace Storage

def components (text : String) : List String := (text.toList.splitOn '/').map String.ofList

/-- A text that names one entry of a directory. -/
structure Component (text : String) : Prop where
  nonempty : text ≠ ""
  not_here : text ≠ "."
  not_up : text ≠ ".."
  no_slash : '/' ∉ text.toList

instance (text : String) : Decidable (Component text) :=
  decidable_of_iff (text ≠ "" ∧ text ≠ "." ∧ text ≠ ".." ∧ '/' ∉ text.toList)
    ⟨fun h => ⟨h.1, h.2.1, h.2.2.1, h.2.2.2⟩, fun h => ⟨h.1, h.2, h.3, h.4⟩⟩

theorem Component.components {text : String} (single : Component text) : components text = [text] := by
  simp [Storage.components, List.splitOn_eq_singleton single.no_slash]

def walk (dir : Path) (name : String) : Path :=
  if name = "" ∨ name = "." then dir else if name = ".." then dir.tail else name :: dir

theorem Component.walk {name : String} (single : Component name) (dir : Path) :
    walk dir name = name :: dir := by
  simp [Storage.walk, single.nonempty, single.not_here, single.not_up]

namespace FileTree

variable {α : Type}

/-- Each name but the last has to lead to an existing directory. -/
def resolve (t : FileTree α) : Path → List String → Option Path
  | dir, [] => some dir
  | dir, name :: names => if t.stat dir = some .dir then t.resolve (walk dir name) names else none

theorem resolve_append (t : FileTree α) (dir : Path) (front back : List String) :
    t.resolve dir (front ++ back) = (t.resolve dir front).bind fun middle => t.resolve middle back := by
  induction front generalizing dir with
  | nil => rfl
  | cons name front ih =>
    simp only [List.cons_append, resolve]
    split
    · exact ih _
    · rfl

theorem resolve_congr {t u : FileTree α} (same : ∀ path, t.stat path = some .dir ↔ u.stat path = some .dir)
    (dir : Path) (names : List String) : t.resolve dir names = u.resolve dir names := by
  induction names generalizing dir with
  | nil => rfl
  | cons name names ih =>
    simp only [resolve]
    by_cases held : t.stat dir = some .dir
    · rw [if_pos held, if_pos ((same dir).mp held), ih]
    · rw [if_neg held, if_neg (fun h => held ((same dir).mpr h))]

theorem resolve_mono {t u : FileTree α} (kept : ∀ path, t.stat path = some .dir → u.stat path = some .dir)
    {dir path : Path} {names : List String} (found : t.resolve dir names = some path) :
    u.resolve dir names = some path := by
  induction names generalizing dir with
  | nil => exact found
  | cons name names ih =>
    rw [resolve] at found ⊢
    split at found
    · rename_i held
      rw [if_pos (kept dir held)]
      exact ih found
    · cases found

theorem resolve_start {t : FileTree α} {dir path : Path} {name : String} {names : List String}
    (found : t.resolve dir (name :: names) = some path) : t.stat dir = some .dir := by
  rw [resolve] at found
  split at found
  · assumption
  · cases found

theorem resolve_front {t : FileTree α} {dir path : Path} {front : List String} {name : String} {back : List String}
    (found : t.resolve dir (front ++ name :: back) = some path) :
    ∃ middle, t.resolve dir front = some middle ∧ t.stat middle = some .dir ∧
      t.resolve middle (name :: back) = some path := by
  rw [resolve_append] at found
  obtain ⟨middle, reached, onward⟩ := Option.bind_eq_some_iff.mp found
  exact ⟨middle, reached, resolve_start onward, onward⟩

theorem resolve_last {t : FileTree α} {dir path : Path} {front : List String} {name : String}
    (single : Component name) (found : t.resolve dir (front ++ [name]) = some path) :
    ∃ middle, t.resolve dir front = some middle ∧ t.stat middle = some .dir ∧ path = name :: middle := by
  obtain ⟨middle, reached, parent, onward⟩ := resolve_front found
  refine ⟨middle, reached, parent, ?_⟩
  rw [resolve, if_pos parent, single.walk] at onward
  exact (Option.some.inj onward).symm

theorem resolve_eq_foldl {t : FileTree α} {dir path : Path} {names : List String}
    (found : t.resolve dir names = some path) : path = names.foldl walk dir := by
  induction names generalizing dir with
  | nil => exact (Option.some.inj found).symm
  | cons name names ih =>
    rw [resolve] at found
    split at found
    · exact ih found
    · cases found

theorem resolve_passes {t : FileTree α} {dir path : Path} {names : List String} (found : t.resolve dir names = some path)
    {front : List String} (prior : front <+: names) (shorter : front ≠ names) :
    t.stat (front.foldl walk dir) = some .dir := by
  obtain ⟨back, rfl⟩ := prior
  cases back with
  | nil => simp at shorter
  | cons name back =>
    obtain ⟨middle, reached, parent, _⟩ := resolve_front found
    rw [← resolve_eq_foldl reached]
    exact parent

/-- What `File.exists` and then `FileInputStream` see at a path text. -/
def readFile (t : FileTree α) (dir : Path) (names : List String) : Option α :=
  (t.resolve dir names).bind t.contents

/-- `File.mkdirs` falls back on the canonical path, where `..` is taken literally. -/
def makeDirs (t : FileTree α) (dir : Path) (names : List String) : FileTree α :=
  if ((t.resolve dir names).bind t.stat).isSome then t else t.mkdirs (names.foldl walk dir)

theorem makeDirs_of_resolve {t : FileTree α} {dir path : Path} {front back : List String}
    (found : t.resolve dir (front ++ back) = some path) (more : back ≠ []) : t.makeDirs dir front = t := by
  obtain ⟨name, rest, rfl⟩ := List.exists_cons_of_ne_nil more
  obtain ⟨middle, reached, parent, _⟩ := resolve_front found
  rw [makeDirs, reached]
  simp [parent]

theorem makeDirs_dir {t : FileTree α} {dir path : Path} {names : List String} (held : t.stat path = some .dir) :
    (t.makeDirs dir names).stat path = some .dir := by
  unfold makeDirs
  split
  · exact held
  · rw [t.stat_mkdirs_of_isSome _ _ (by rw [held]; rfl), held]

@[simp] theorem contents_makeDirs (t : FileTree α) (dir : Path) (names : List String) (other : Path) :
    (t.makeDirs dir names).contents other = t.contents other := by
  unfold makeDirs
  split
  · rfl
  · exact t.contents_mkdirs _ _

theorem foldl_walk {names : List String} (single : ∀ name ∈ names, Component name) (dir : Path) :
    names.foldl walk dir = names.reverse ++ dir := by
  induction names generalizing dir with
  | nil => rfl
  | cons name names ih =>
    rw [List.foldl_cons, (single name (by simp)).walk, ih (fun other member => single other (by simp [member]))]
    simp

theorem stat_resolve (t : FileTree α) {names : List String} (single : ∀ name ∈ names, Component name) (dir : Path) :
    (t.resolve dir names).bind t.stat = t.stat (names.reverse ++ dir) := by
  induction names generalizing dir with
  | nil => rfl
  | cons name names ih =>
    have onward := ih (fun other member => single other (by simp [member])) (name :: dir)
    have target : (name :: names).reverse ++ dir = names.reverse ++ name :: dir := by simp
    rw [resolve, (single name (by simp)).walk, target]
    split
    · exact onward
    · rename_i closed
      cases held : t.stat (names.reverse ++ name :: dir) with
      | none => rfl
      | some node =>
        have above := t.stat_ancestor (by rw [held]; rfl) (List.suffix_append names.reverse (name :: dir))
        exact absurd (t.stat_parent above) closed

theorem resolve_of_dir (t : FileTree α) {front : List String} {name : String}
    (single : ∀ other ∈ front ++ [name], Component other) (dir : Path)
    (parent : t.stat (front.reverse ++ dir) = some .dir) :
    t.resolve dir (front ++ [name]) = some (name :: (front.reverse ++ dir)) := by
  induction front generalizing dir with
  | nil => simpa [resolve, (single name (by simp)).walk] using parent
  | cons first front ih =>
    have target : (first :: front).reverse ++ dir = front.reverse ++ first :: dir := by simp
    rw [target] at parent ⊢
    have above := t.stat_ancestor (by rw [parent]; rfl) (List.suffix_append front.reverse (first :: dir))
    rw [List.cons_append, resolve, if_pos (t.stat_parent above), (single first (by simp)).walk]
    exact ih (fun other member => single other (by simp at member ⊢; tauto)) (first :: dir) parent

theorem readFile_eq (t : FileTree α) {names : List String} (single : ∀ name ∈ names, Component name) (dir : Path) :
    t.readFile dir names = t.contents (names.reverse ++ dir) := by
  unfold readFile contents
  rw [← Option.bind_assoc, t.stat_resolve single]

theorem stat_makeDirs (t : FileTree α) {names : List String} (single : ∀ name ∈ names, Component name) (dir : Path)
    (clear : t.Clear (names.reverse ++ dir)) (other : Path) :
    (t.makeDirs dir names).stat other =
      if other <:+ names.reverse ++ dir then some .dir else t.stat other := by
  unfold makeDirs
  rw [t.stat_resolve single, foldl_walk single]
  split
  · rename_i present
    split
    · rename_i below
      rcases clear other below with absent | held
      · have above := t.stat_ancestor present below
        simp [absent] at above
      · exact held
    · rfl
  · exact t.stat_mkdirs clear other

theorem resolve_plain {t : FileTree α} {names : List String} (single : ∀ name ∈ names, Component name) {dir path : Path}
    (found : t.resolve dir names = some path) : path = names.reverse ++ dir := by
  rw [resolve_eq_foldl found, foldl_walk single]

theorem readFile_makeDirs (t : FileTree α) (dir : Path) (front : List String) {name : String} (single : Component name) :
    (t.makeDirs dir front).readFile dir (front ++ [name]) = t.readFile dir (front ++ [name]) := by
  cases found : t.resolve dir (front ++ [name]) with
  | some path => rw [makeDirs_of_resolve found (by simp)]
  | none =>
    rw [readFile, readFile, found, Option.bind_none]
    cases later : (t.makeDirs dir front).resolve dir (front ++ [name]) with
    | none => rfl
    | some path =>
      rw [Option.bind_some, contents_makeDirs]
      cases held : t.contents path with
      | none => rfl
      | some data =>
        -- the file's directory was there, so none was made and the path text leads nowhere still
        obtain ⟨middle, reached, _, rfl⟩ := resolve_last single later
        have present := (t.contents_eq_some _ _).mp held
        have parent : t.stat middle = some .dir := t.stat_parent (by rw [present]; rfl)
        have unchanged : ∀ other, (t.makeDirs dir front).stat other = t.stat other := by
          intro other
          unfold makeDirs
          split
          · rfl
          · rw [← resolve_eq_foldl reached, t.stat_mkdirs (.of_dir parent)]
            split
            · rename_i below
              rcases Clear.of_dir parent other below with absent | same
              · have above := t.stat_ancestor (by rw [parent]; rfl) below
                rw [absent] at above
                cases above
              · exact same.symm
            · rfl
        have same := @resolve_congr α (t.makeDirs dir front) t (fun other => by rw [unchanged]) dir (front ++ [name])
        rw [same, found] at later
        cases later

def removeAt (dir : Path) (names : List String) (below : Path) (t : FileTree α) : FileTree α :=
  match t.resolve dir names with
  | some path => t.remove (below ++ path)
  | none => t

/-- A directory's entries go first. Each is named by the path text that the deletion started from, and that text is
    resolved again for each of them. -/
def removeBelow (dir : Path) (names : List String) : Nat → Path → FileTree α → FileTree α
  | 0, below, t => t.removeAt dir names below
  | depth + 1, below, t =>
    (((t.resolve dir names).elim [] fun path => t.children (below ++ path)).foldl
      (fun t name => removeBelow dir names depth (name :: below) t) t).removeAt dir names below

def deleteAt (t : FileTree α) (dir : Path) (names : List String) : FileTree α := removeBelow dir names t.depth [] t

theorem stat_removeAt_of_not_suffix (t : FileTree α) {dir : Path} {names : List String} {below other : Path}
    (beside : ¬ names.foldl walk dir <:+ other) : (t.removeAt dir names below).stat other = t.stat other := by
  unfold removeAt
  split
  · rename_i path found
    apply stat_remove_of_ne
    rintro rfl
    rw [resolve_eq_foldl found] at beside
    exact beside (List.suffix_append below _)
  · rfl

/-- Nothing is deleted but what is at or below the place that the text spells. -/
theorem stat_removeBelow_of_not_suffix (t : FileTree α) {dir : Path} {names : List String} {other : Path}
    (beside : ¬ names.foldl walk dir <:+ other) (depth : Nat) (below : Path) :
    (removeBelow dir names depth below t).stat other = t.stat other := by
  induction depth generalizing t below with
  | zero => exact t.stat_removeAt_of_not_suffix beside
  | succ depth ih =>
    rw [removeBelow, stat_removeAt_of_not_suffix _ beside]
    generalize (t.resolve dir names).elim [] (fun path => t.children (below ++ path)) = entries
    induction entries generalizing t with
    | nil => rfl
    | cons name entries sweep => rw [List.foldl_cons, sweep, ih]

theorem stat_deleteAt_of_not_suffix (t : FileTree α) {dir : Path} {names : List String} {other : Path}
    (beside : ¬ names.foldl walk dir <:+ other) : (t.deleteAt dir names).stat other = t.stat other :=
  t.stat_removeBelow_of_not_suffix beside t.depth []

theorem stat_removeAt (t : FileTree α) (dir : Path) (names : List String) (below other : Path) :
    (t.removeAt dir names below).stat other = t.stat other ∨ (t.removeAt dir names below).stat other = none := by
  unfold removeAt
  split
  · rename_i path found
    by_cases same : below ++ path = other
    · subst same
      cases held : below ++ path with
      | nil => exact .inl rfl
      | cons name rest =>
        by_cases empty : t.children (name :: rest) = []
        · right
          rw [t.stat_remove _ _ (by simp) empty, if_pos rfl]
        · left
          rw [remove, dif_neg empty]
    · exact .inl (t.stat_remove_of_ne same)
  · exact .inl rfl

theorem stat_removeBelow (t : FileTree α) (dir : Path) (names : List String) (depth : Nat) (below other : Path) :
    (removeBelow dir names depth below t).stat other = t.stat other ∨
      (removeBelow dir names depth below t).stat other = none := by
  induction depth generalizing t below with
  | zero => exact t.stat_removeAt dir names below other
  | succ depth ih =>
    have sweep : ∀ (entries : List String) (u : FileTree α),
        (entries.foldl (fun u name => removeBelow dir names depth (name :: below) u) u).stat other = u.stat other ∨
          (entries.foldl (fun u name => removeBelow dir names depth (name :: below) u) u).stat other = none := by
      intro entries
      induction entries with
      | nil => exact fun u => .inl rfl
      | cons name entries rest =>
        intro u
        rw [List.foldl_cons]
        rcases rest (removeBelow dir names depth (name :: below) u) with same | gone
        · rw [same]
          exact ih u (name :: below)
        · exact .inr gone
    rw [removeBelow]
    rcases stat_removeAt _ dir names below other with same | gone
    · rw [same]
      exact sweep _ t
    · exact .inr gone

theorem stat_deleteAt_cases (t : FileTree α) (dir : Path) (names : List String) (other : Path) :
    (t.deleteAt dir names).stat other = t.stat other ∨ (t.deleteAt dir names).stat other = none :=
  t.stat_removeBelow dir names t.depth [] other

theorem deleteAt_of_nowhere {t : FileTree α} {dir : Path} {names : List String} (nowhere : t.resolve dir names = none) :
    t.deleteAt dir names = t := by
  have still : t.removeAt dir names [] = t := by rw [removeAt, nowhere]
  unfold deleteAt
  cases t.depth with
  | zero => exact still
  | succ depth =>
    rw [removeBelow, nowhere]
    exact still

/-- The way to the place does not lead through anything below it. -/
def Straight (dir : Path) (names : List String) : Prop :=
  ∀ front, front <+: names → front ≠ names → names.foldl walk dir <:+ front.foldl walk dir →
    front.foldl walk dir = names.foldl walk dir

theorem resolve_congr_on {t u : FileTree α} {dir : Path} {names : List String}
    (same : ∀ front, front <+: names → front ≠ names →
      (t.stat (front.foldl walk dir) = some .dir ↔ u.stat (front.foldl walk dir) = some .dir)) :
    t.resolve dir names = u.resolve dir names := by
  induction names generalizing dir with
  | nil => rfl
  | cons name names ih =>
    have here : t.stat dir = some .dir ↔ u.stat dir = some .dir := same [] List.nil_prefix (by simp)
    have onward := @ih (walk dir name) fun front below shorter =>
      same (name :: front) (List.cons_prefix_cons.mpr ⟨rfl, below⟩) (by simpa using shorter)
    rw [resolve, resolve]
    by_cases held : t.stat dir = some .dir
    · rw [if_pos held, if_pos (here.mp held), onward]
    · rw [if_neg held, if_neg fun dirs => held (here.mpr dirs)]

theorem resolve_removeTree (t : FileTree α) {dir path : Path} {names : List String} (straight : Straight dir names)
    (found : t.resolve dir names = some path) (depth : Nat) (name : String) (below : Path) :
    (t.removeTree depth (name :: below ++ path)).resolve dir names = some path := by
  rw [← found]
  apply resolve_congr_on
  intro front prior shorter
  have beside : ¬ name :: below ++ path <:+ front.foldl walk dir := by
    intro lower
    have place := resolve_eq_foldl found
    have reached : names.foldl walk dir <:+ front.foldl walk dir := by
      rw [← place]
      exact (List.suffix_append (name :: below) path).trans lower
    rw [straight front prior shorter reached, ← place] at lower
    have longer := lower.length_le
    rw [List.length_append, List.length_cons] at longer
    omega
  rw [t.stat_removeTree_of_not_suffix depth beside]

theorem removeBelow_eq {dir path : Path} {names : List String} (straight : Straight dir names) (depth : Nat)
    (t : FileTree α) (found : t.resolve dir names = some path) (below : Path) :
    removeBelow dir names depth below t = t.removeTree depth (below ++ path) := by
  induction depth generalizing t below with
  | zero => rw [removeBelow, removeAt, found, removeTree]
  | succ depth ih =>
    -- each entry is removed as a tree, after which the text still leads to the same place
    have sweep : ∀ (entries : List String) (u : FileTree α), u.resolve dir names = some path →
        entries.foldl (fun u name => removeBelow dir names depth (name :: below) u) u =
            entries.foldl (fun u name => u.removeTree depth (name :: (below ++ path))) u ∧
          (entries.foldl (fun u name => u.removeTree depth (name :: (below ++ path))) u).resolve dir names = some path := by
      intro entries
      induction entries with
      | nil => exact fun u reached => ⟨rfl, reached⟩
      | cons name entries rest =>
        intro u reached
        rw [List.foldl_cons, List.foldl_cons, ih u reached (name :: below)]
        exact rest _ (u.resolve_removeTree straight reached depth name below)
    obtain ⟨same, still⟩ := sweep (t.children (below ++ path)) t found
    rw [removeBelow, found, Option.elim_some, same, removeAt, still, removeTree]

/-- A straight path text deletes its place with everything below it. -/
theorem stat_deleteAt_of_straight (t : FileTree α) {dir path : Path} {names : List String} (straight : Straight dir names)
    (found : t.resolve dir names = some path) (inner : path ≠ []) (other : Path) :
    (t.deleteAt dir names).stat other = if path <:+ other then none else t.stat other := by
  rw [deleteAt, removeBelow_eq straight t.depth t found []]
  exact t.stat_deleteRecursive path other inner

theorem straight_of_components {names : List String} (single : ∀ name ∈ names, Component name) (dir : Path) :
    Straight dir names := by
  intro front prior shorter lower
  have part : ∀ name ∈ front, Component name := fun name member => single name (prior.subset member)
  rw [foldl_walk single, foldl_walk part] at lower
  have longer := lower.length_le
  rw [List.length_append, List.length_append, List.length_reverse, List.length_reverse] at longer
  exact absurd (prior.eq_of_length_le (by omega)) shorter

theorem stat_deleteAt (t : FileTree α) {names : List String} (single : ∀ name ∈ names, Component name) (dir : Path)
    (inner : names ≠ []) (other : Path) :
    (t.deleteAt dir names).stat other = if names.reverse ++ dir <:+ other then none else t.stat other := by
  cases found : t.resolve dir names with
  | some path =>
    have place := resolve_plain single found
    rw [t.stat_deleteAt_of_straight (straight_of_components single dir) found (by rw [place]; simp [inner]), place]
  | none =>
    rw [deleteAt_of_nowhere found]
    split
    · rename_i below
      have absent : t.stat (names.reverse ++ dir) = none := by rw [← t.stat_resolve single, found, Option.bind_none]
      cases held : t.stat other with
      | none => rfl
      | some node =>
        have above := t.stat_ancestor (by rw [held]; rfl) below
        rw [absent] at above
        cases above
    · rfl

end FileTree

/-- How one write of a whole file ends: completely, with an error before the file
    is opened, or with an error after it was truncated and partly written. -/
inductive WriteOutcome where
  | written
  | notOpened
  | stopped (after : Nat)
deriving DecidableEq, Repr

/-- A file tree together with the outcomes that the coming writes of each file
    will meet; a file with no outcome left is written completely. -/
structure Disk (β : Type) where
  tree : FileTree (List β)
  outcomes : Path → List WriteOutcome

namespace Disk

variable {β : Type}

def write (disk : Disk β) (path : Path) (data : List β) : Disk β :=
  match disk.outcomes path with
  | [] => { disk with tree := disk.tree.write path data }
  | outcome :: rest =>
    { tree := match outcome with
        | .written => disk.tree.write path data
        | .notOpened => disk.tree
        | .stopped after => disk.tree.write path (data.take after)
      outcomes := Function.update disk.outcomes path rest }

theorem stat_write_of_ne (disk : Disk β) {path other : Path} (data : List β) (beside : path ≠ other) :
    (disk.write path data).tree.stat other = disk.tree.stat other := by
  unfold Disk.write
  split
  · exact disk.tree.stat_write_of_ne data beside
  · rename_i outcome rest queued
    cases outcome with
    | written => exact disk.tree.stat_write_of_ne data beside
    | notOpened => rfl
    | stopped after => exact disk.tree.stat_write_of_ne (data.take after) beside

theorem stat_write_dir (disk : Disk β) (path other : Path) (data : List β) :
    (disk.write path data).tree.stat other = some .dir ↔ disk.tree.stat other = some .dir := by
  unfold Disk.write
  split
  · exact disk.tree.stat_write_dir path other data
  · rename_i outcome rest queued
    cases outcome with
    | written => exact disk.tree.stat_write_dir path other data
    | notOpened => exact Iff.rfl
    | stopped after => exact disk.tree.stat_write_dir path other (data.take after)

def left (data : List β) : Option WriteOutcome → Option (List β)
  | none | some .written => some data
  | some .notOpened => none
  | some (.stopped after) => some (data.take after)

theorem contents_write (disk : Disk β) {name : String} {parent : Path} (data : List β)
    (opened : disk.tree.stat parent = some .dir) (leaf : disk.tree.stat (name :: parent) ≠ some .dir) :
    (disk.write (name :: parent) data).tree.contents (name :: parent) =
      (left data (disk.outcomes (name :: parent)).head?).or (disk.tree.contents (name :: parent)) := by
  have wrote : ∀ kept : List β, (disk.tree.write (name :: parent) kept).contents (name :: parent) = some kept := by
    intro kept
    rw [FileTree.contents, disk.tree.stat_write kept opened leaf, if_pos rfl]
    rfl
  unfold Disk.write
  split
  · rename_i empty
    rw [empty]
    exact wrote data
  · rename_i outcome rest queued
    rw [queued, List.head?_cons]
    cases outcome with
    | written => exact wrote data
    | notOpened => rfl
    | stopped after => exact wrote (data.take after)

theorem outcomes_write (disk : Disk β) (path : Path) (data : List β) :
    (disk.write path data).outcomes path = (disk.outcomes path).tail := by
  unfold Disk.write
  split
  · rename_i empty
    rw [empty]
    rfl
  · rename_i outcome rest queued
    rw [queued]
    exact Function.update_self ..

def NextWritten (disk : Disk β) (path : Path) : Prop := ∀ outcome ∈ (disk.outcomes path).head?, outcome = .written

theorem NextWritten.write_tree {disk : Disk β} {path : Path} (next : disk.NextWritten path) (data : List β) :
    (disk.write path data).tree = disk.tree.write path data := by
  unfold Disk.write
  split
  · rfl
  · rename_i outcome rest queued
    have first : outcome = .written := next outcome (by simp [queued])
    subst first
    rfl

def Sound (disk : Disk β) : Prop := ∀ path, ∀ outcome ∈ disk.outcomes path, outcome = .written

theorem Sound.next {disk : Disk β} (sound : disk.Sound) (path : Path) : disk.NextWritten path :=
  fun outcome member => sound path outcome (List.mem_of_mem_head? member)

theorem Sound.write {disk : Disk β} (sound : disk.Sound) (path : Path) (data : List β) :
    (disk.write path data).Sound := by
  unfold Disk.write
  split
  · exact sound
  · rename_i first rest queued
    intro other outcome member
    dsimp only at member
    by_cases same : other = path
    · subst same
      rw [Function.update_self] at member
      exact sound other outcome (by simp [queued, member])
    · rw [Function.update_of_ne same] at member
      exact sound other outcome member

end Disk
end Storage
