import PillarSignal.Android.MessageFiles
import PillarSignal.Android.Client

namespace PillarSignal.Android.MessageStorage

open Storage ProtocolStorage

inductive ContactOperation where
  | storeMessage (username : String) (newMessage : Json) (tag : String)
  | deleteContactMessages (username tag : String)
  | deleteAllContactMessages (username : String)
  | deleteContact (username : String)

namespace ContactOperation

def run (p : Platform) : ContactOperation → Files → Files
  | storeMessage username newMessage tag => MessageStorage.storeMessage p username newMessage tag
  | deleteContactMessages username tag => MessageStorage.deleteContactMessages p username tag
  | deleteAllContactMessages username => MessageStorage.deleteAllContactMessages p username
  | deleteContact username => RNSignalClientModule.deleteContact p username

def own : ContactOperation → List StorageFile
  | deleteContact _ => [.SESSIONS_JSON_FILENAME, .IDENTITES_JSON_FILENAME]
  | _ => []

end ContactOperation

def placeOf (p : Platform) (names : List String) : Path := names.foldl walk p.filesDir

/-- Every history of the other contact reads as before, and no file outside the messages has changed. -/
structure Untouched (p : Platform) (own : List StorageFile) (other : String) (before after : Files) : Prop where
  histories : ∀ tag, getContactMessages p other tag after = getContactMessages p other tag before
  outside : ∀ path, ¬ directory p <:+ path → (∀ file ∈ own, path ≠ file.path p) →
    after.tree.contents path = before.tree.contents path

/-- A history is empty, or is not read at the place of a deletion or by way of it. -/
def Beside (p : Platform) (names : List String) (username tag : String) (files : Files) : Prop :=
  getContactMessages p username tag files = [] ∨
    ∀ front, front <+: fileNames username (getMessageStoreFilename tag) → ¬ placeOf p names <:+ placeOf p front

/-- The place of a deletion holds no file outside the messages, and no history of the other contact is read at it
    or by way of it. -/
structure Spares (p : Platform) (own : List StorageFile) (names : List String) (other : String) (files : Files) : Prop where
  inside : ∀ path text, files.tree.contents path = some text → placeOf p names <:+ path →
    directory p <:+ path ∨ ∃ file ∈ own, path = file.path p
  beside : ∀ tag, Beside p names other tag files

def opened (p : Platform) (username : String) (files : Files) : Files :=
  { withContact p username files with tree := (withContact p username files).tree.makeDirs p.filesDir ["messages"] }

/-- The message goes to a file among the messages that the other contact does not read, and the new directories bring
    no message into its view. -/
structure StoresApart (p : Platform) (username tag other : String) (files : Files) : Prop where
  place : ∀ path, (opened p username files).tree.resolve p.filesDir (fileNames username (getMessageStoreFilename tag)) =
    some path → directory p <:+ path ∧ ∀ label,
      (opened p username files).tree.resolve p.filesDir (fileNames other (getMessageStoreFilename label)) ≠ some path
  view : ∀ label, getContactMessages p other label (opened p username files) = getContactMessages p other label files

/-- A history is not read at the place where a message is written, and the new directories do not bring it into view. -/
structure ApartFrom (p : Platform) (username tag other label : String) (files : Files) : Prop where
  place : ∀ path, (opened p username files).tree.resolve p.filesDir (fileNames username (getMessageStoreFilename tag)) =
    some path →
      (opened p username files).tree.resolve p.filesDir (fileNames other (getMessageStoreFilename label)) ≠ some path
  view : getContactMessages p other label (opened p username files) = getContactMessages p other label files

def DeletesApart (p : Platform) (own : List StorageFile) (names : List String) (other : String) (files : Files) : Prop :=
  files.tree.resolve p.filesDir names = none ∨ Spares p own names other files

def Apart (p : Platform) (other : String) (files : Files) : ContactOperation → Prop
  | .storeMessage username _ tag => StoresApart p username tag other files
  | .deleteContactMessages username tag => DeletesApart p [] (fileNames username (getMessageStoreFilename tag)) other files
  | .deleteAllContactMessages username => DeletesApart p [] (contactNames username) other files
  | .deleteContact username =>
    DeletesApart p (ContactOperation.deleteContact username).own (contactNames username) other files

/-- A deletion does not delete the way to its own place, and a message can be appended. -/
def Plain (p : Platform) (files : Files) : ContactOperation → Prop
  | .storeMessage username _ tag => Storable p username tag files
  | .deleteContactMessages username tag =>
    FileTree.Straight p.filesDir (fileNames username (getMessageStoreFilename tag))
  | .deleteAllContactMessages username | .deleteContact username => FileTree.Straight p.filesDir (contactNames username)

variable {p : Platform} {other : String} {own : List StorageFile} {names : List String} {files before after : Files}

theorem Untouched.refl (files : Files) : Untouched p own other files files := ⟨fun _ => rfl, fun _ _ _ => rfl⟩

theorem Untouched.symm (untouched : Untouched p own other before after) : Untouched p own other after before :=
  ⟨fun tag => (untouched.histories tag).symm, fun path outer free => (untouched.outside path outer free).symm⟩

theorem Untouched.trans {later : Files} (first : Untouched p own other before after)
    (second : Untouched p own other after later) : Untouched p own other before later :=
  ⟨fun tag => (second.histories tag).trans (first.histories tag),
    fun path outer free => (second.outside path outer free).trans (first.outside path outer free)⟩

section Deletions

def deleted (p : Platform) (names : List String) (files : Files) : Files :=
  { files with tree := files.tree.deleteAt p.filesDir names }

theorem contents_deleted (files : Files) (path : Path) :
    (deleted p names files).tree.contents path = files.tree.contents path ∨
      (deleted p names files).tree.contents path = none := by
  unfold FileTree.contents
  rcases files.tree.stat_deleteAt_cases p.filesDir names path with same | gone
  · exact .inl (congrArg (fun node => node.bind Node.data?) same)
  · exact .inr (congrArg (fun node => node.bind Node.data?) gone)

theorem readFile_deleted (files : Files) (text : List String) :
    (deleted p names files).tree.readFile p.filesDir text = files.tree.readFile p.filesDir text ∨
      (deleted p names files).tree.readFile p.filesDir text = none := by
  cases found : (deleted p names files).tree.resolve p.filesDir text with
  | none =>
    right
    rw [FileTree.readFile, found, Option.bind_none]
  | some path =>
    have earlier : files.tree.resolve p.filesDir text = some path := by
      refine FileTree.resolve_mono (fun place dir => ?_) found
      rcases files.tree.stat_deleteAt_cases p.filesDir names place with same | gone
      · exact same.symm.trans dir
      · cases gone.symm.trans dir
    rw [FileTree.readFile, FileTree.readFile, found, earlier, Option.bind_some, Option.bind_some]
    exact contents_deleted files path

theorem stat_deleted_of_not_suffix {path : Path} (beside : ¬ placeOf p names <:+ path) (files : Files) :
    (deleted p names files).tree.stat path = files.tree.stat path :=
  files.tree.stat_deleteAt_of_not_suffix beside

theorem Beside.getContactMessages_deleted {tag : String} (beside : Beside p names other tag files) :
    getContactMessages p other tag (deleted p names files) = getContactMessages p other tag files := by
  rcases beside with empty | beside
  · rw [empty]
    rw [getContactMessages_eq_messagesIn] at empty ⊢
    rcases @readFile_deleted p names files (fileNames other (getMessageStoreFilename tag)) with same | gone
    · rw [same, empty]
    · rw [gone]
      rfl
  · have dirs : ∀ front, front <+: fileNames other (getMessageStoreFilename tag) →
        (deleted p names files).tree.stat (placeOf p front) = files.tree.stat (placeOf p front) :=
      fun front prior => stat_deleted_of_not_suffix (beside front prior) files
    have resolved : (deleted p names files).tree.resolve p.filesDir (fileNames other (getMessageStoreFilename tag)) =
        files.tree.resolve p.filesDir (fileNames other (getMessageStoreFilename tag)) := by
      apply FileTree.resolve_congr_on
      intro front prior _
      exact iff_of_eq (congrArg (· = some Node.dir) (dirs front prior))
    rw [getContactMessages_eq_messagesIn, getContactMessages_eq_messagesIn, FileTree.readFile, FileTree.readFile, resolved]
    cases found : files.tree.resolve p.filesDir (fileNames other (getMessageStoreFilename tag)) with
    | none => rfl
    | some path =>
      have place : path = placeOf p (fileNames other (getMessageStoreFilename tag)) := FileTree.resolve_eq_foldl found
      rw [Option.bind_some, Option.bind_some, FileTree.contents, FileTree.contents, place, dirs _ List.prefix_rfl]

theorem Spares.untouched (spares : Spares p own names other files) : Untouched p own other files (deleted p names files) where
  histories tag := (spares.beside tag).getContactMessages_deleted
  outside path outer free := by
    by_cases below : placeOf p names <:+ path
    · cases held : files.tree.contents path with
      | none =>
        rcases @contents_deleted p names files path with same | gone
        · rw [same, held]
        · exact gone
      | some text =>
        rcases spares.inside path text held below with inner | ⟨file, member, place⟩
        · exact absurd inner outer
        · exact absurd place (free file member)
    · rw [FileTree.contents, FileTree.contents, stat_deleted_of_not_suffix below]

theorem DeletesApart.untouched (apart : DeletesApart p own names other files) :
    Untouched p own other files (deleted p names files) := by
  rcases apart with nowhere | spares
  · rw [deleted, FileTree.deleteAt_of_nowhere nowhere]
    exact .refl files
  · exact spares.untouched

theorem stat_deleted (straight : FileTree.Straight p.filesDir names) (inner : placeOf p names ≠ [])
    (found : files.tree.resolve p.filesDir names = some (placeOf p names)) {path : Path} (below : placeOf p names <:+ path) :
    (deleted p names files).tree.stat path = none :=
  (files.tree.stat_deleteAt_of_straight straight found inner path).trans (if_pos below)

theorem resolve_eq_placeOf {path : Path} (found : files.tree.resolve p.filesDir names = some path) :
    files.tree.resolve p.filesDir names = some (placeOf p names) := by
  have place : path = placeOf p names := FileTree.resolve_eq_foldl found
  rw [← place, found]

theorem beside_of_unchanged {tag : String} (straight : FileTree.Straight p.filesDir names) (inner : placeOf p names ≠ [])
    (found : files.tree.resolve p.filesDir names = some (placeOf p names))
    (same : getContactMessages p other tag (deleted p names files) = getContactMessages p other tag files) :
    Beside p names other tag files := by
  by_contra read
  rw [Beside, not_or, not_forall] at read
  obtain ⟨messages, front, reached⟩ := read
  rw [Classical.not_imp, not_not] at reached
  obtain ⟨prior, below⟩ := reached
  have unread : (deleted p names files).tree.readFile p.filesDir (fileNames other (getMessageStoreFilename tag)) = none := by
    rw [FileTree.readFile]
    cases still : (deleted p names files).tree.resolve p.filesDir (fileNames other (getMessageStoreFilename tag)) with
    | none => rfl
    | some last =>
      by_cases whole : front = fileNames other (getMessageStoreFilename tag)
      · rw [whole] at below
        have end_ : last = placeOf p (fileNames other (getMessageStoreFilename tag)) := FileTree.resolve_eq_foldl still
        rw [Option.bind_some, FileTree.contents, end_, stat_deleted straight inner found below]
        rfl
      · have passed := FileTree.resolve_passes still prior whole
        rw [← placeOf, stat_deleted straight inner found below] at passed
        cases passed
  rw [getContactMessages_eq_messagesIn, unread] at same
  exact messages same.symm

theorem deletesApart_of_untouched (straight : FileTree.Straight p.filesDir names) (inner : placeOf p names ≠ [])
    (untouched : Untouched p own other files (deleted p names files)) : DeletesApart p own names other files := by
  cases reached : files.tree.resolve p.filesDir names with
  | none => exact .inl reached
  | some path =>
    have found := resolve_eq_placeOf reached
    refine .inr ⟨fun path text held below => ?_, fun tag => ?_⟩
    · by_contra apart
      rw [not_or] at apart
      have kept := untouched.outside path apart.1 fun file member same => apart.2 ⟨file, member, same⟩
      rw [held, FileTree.contents, stat_deleted straight inner found below] at kept
      cases kept
    · exact beside_of_unchanged straight inner found (untouched.histories tag)

end Deletions

section Stores

variable {username tag : String} {newMessage : Json} {path : Path} {existing : List Json}

/-- Directories may have come up, and nothing else. -/
structure Grown (before after : Files) : Prop where
  dirs : ∀ path, before.tree.stat path = some .dir → after.tree.stat path = some .dir
  texts : ∀ path, after.tree.contents path = before.tree.contents path

theorem Grown.readFile (grown : Grown before after) (names : List String) :
    after.tree.readFile p.filesDir names = before.tree.readFile p.filesDir names ∨
      before.tree.readFile p.filesDir names = none := by
  cases found : before.tree.resolve p.filesDir names with
  | none =>
    right
    rw [FileTree.readFile, found, Option.bind_none]
  | some path =>
    left
    rw [FileTree.readFile, FileTree.readFile, found, FileTree.resolve_mono grown.dirs found, Option.bind_some,
      Option.bind_some, grown.texts]

theorem grown_withContact (username : String) (files : Files) : Grown files (withContact p username files) :=
  ⟨fun _ dir => FileTree.makeDirs_dir dir, fun _ => files.tree.contents_makeDirs ..⟩

theorem grown_opened (username : String) (files : Files) :
    Grown (withContact p username files) (opened p username files) :=
  ⟨fun _ dir => FileTree.makeDirs_dir dir, fun _ => (withContact p username files).tree.contents_makeDirs ..⟩

theorem Grown.between {middle : Files} (first : Grown before middle) (second : Grown middle after)
    (view : getContactMessages p other tag after = getContactMessages p other tag before) :
    getContactMessages p other tag middle = getContactMessages p other tag before := by
  simp only [getContactMessages_eq_messagesIn] at view ⊢
  rcases @Grown.readFile p _ _ second (fileNames other (getMessageStoreFilename tag)) with same | absent
  · rw [← same, view]
  · rcases @Grown.readFile p _ _ first (fileNames other (getMessageStoreFilename tag)) with same | nothing
    · rw [same]
    · rw [absent, nothing]

theorem storeMessage_cases (username : String) (newMessage : Json) (tag : String) (files : Files) :
    storeMessage p username newMessage tag files = withContact p username files ∨
      storeMessage p username newMessage tag files = opened p username files ∨
      ∃ path text, (opened p username files).tree.resolve p.filesDir (fileNames username (getMessageStoreFilename tag)) =
        some path ∧ storeMessage p username newMessage tag files = (opened p username files).write path text := by
  rw [storeMessage, ← withContact]
  split
  · exact .inl rfl
  · rw [writeToStorageFile, ← opened]
    split
    · rename_i path found
      exact .inr (.inr ⟨path, _, found, rfl⟩)
    · exact .inr (.inl rfl)

theorem getContactMessages_write {label : String} {data : List Char}
    (elsewhere : files.tree.resolve p.filesDir (fileNames other (getMessageStoreFilename label)) ≠ some path) :
    getContactMessages p other label (files.write path data) = getContactMessages p other label files := by
  rw [getContactMessages_eq_messagesIn, getContactMessages_eq_messagesIn, FileTree.readFile, FileTree.readFile,
    FileTree.resolve_congr fun place => Disk.stat_write_dir _ path place data]
  cases read : files.tree.resolve p.filesDir (fileNames other (getMessageStoreFilename label)) with
  | none => rfl
  | some place =>
    have differs : path ≠ place := by
      rintro rfl
      exact elsewhere read
    rw [Option.bind_some, Option.bind_some, FileTree.contents, FileTree.contents, Disk.stat_write_of_ne _ _ differs]

theorem StoresApart.untouched (apart : StoresApart p username tag other files) (newMessage : Json) :
    Untouched p own other files (storeMessage p username newMessage tag files) := by
  have made := @grown_withContact p username files
  have open_ := @grown_opened p username files
  rcases storeMessage_cases username newMessage tag files with stays | stays | ⟨path, text, found, stays⟩
  · rw [stays]
    exact ⟨fun label => made.between open_ (apart.view label), fun path _ _ => made.texts path⟩
  · rw [stays]
    exact ⟨apart.view, fun path _ _ => (open_.texts path).trans (made.texts path)⟩
  · obtain ⟨inner, elsewhere⟩ := apart.place path found
    have others : ∀ place, path ≠ place →
        ((opened p username files).write path text).tree.contents place = (opened p username files).tree.contents place := by
      intro place differs
      rw [FileTree.contents, Disk.stat_write_of_ne _ _ differs]
      rfl
    rw [stays]
    refine ⟨fun label => ?_, fun place outer _ => ?_⟩
    · rw [getContactMessages_write (elsewhere label), apart.view label]
    · have differs : path ≠ place := by
        rintro rfl
        exact outer inner
      rw [others place differs, open_.texts, made.texts]

theorem Reaches.opened_eq {file : HistoryFile} (reaches : Reaches p username file (withContact p username files) path) :
    opened p username files = withContact p username files := by
  have made : (withContact p username files).tree.makeDirs p.filesDir ["messages"] =
      (withContact p username files).tree := FileTree.makeDirs_of_resolve (by exact reaches.found) (by simp)
  rw [opened, made]

section Written

variable (reaches : Reaches p username (getMessageStoreFilename tag) (withContact p username files) path)
  (readable : readHistory p username (getMessageStoreFilename tag) (withContact p username files) = .ok existing)
include reaches readable

theorem messagesIn_stored (next : files.NextWritten path) (newMessage : Json) :
    messagesIn p ((storeMessage p username newMessage tag files).tree.contents path) = existing ++ [newMessage] := by
  rw [storeMessage_eq reaches readable newMessage]
  obtain ⟨contact, rfl, parent⟩ := reaches.parent
  have next : (withContact p username files).NextWritten _ := next
  rw [next.write_tree, FileTree.contents, FileTree.stat_write _ _ parent reaches.leaf, if_pos rfl]
  exact messagesIn_print _

/-- A history that is read at the place of a stored message ends with it, and was read there before or not at all. -/
theorem getContactMessages_stored (next : files.NextWritten path) (newMessage : Json) {label : String}
    (read : (withContact p username files).tree.resolve p.filesDir (fileNames other (getMessageStoreFilename label)) =
      some path) :
    getContactMessages p other label (storeMessage p username newMessage tag files) = existing ++ [newMessage] ∧
      (getContactMessages p other label files = existing ∨ getContactMessages p other label files = []) := by
  constructor
  · rw [getContactMessages_eq_messagesIn, FileTree.readFile,
      FileTree.resolve_congr (stat_storeMessage_dir reaches readable), read, Option.bind_some,
      messagesIn_stored reaches readable next]
  · have grown := @grown_withContact p username files
    rw [getContactMessages_eq_messagesIn]
    rcases @Grown.readFile p _ _ grown (fileNames other (getMessageStoreFilename label)) with same | absent
    · left
      rw [← same, FileTree.readFile, read, Option.bind_some, grown.texts, messagesIn_of_reached reaches readable]
    · right
      rw [absent]
      rfl

end Written

theorem Storable.seen_iff (storable : Storable p username tag files) (newMessage : Json) (other label : String) :
    (ApartFrom p username tag other label files → getContactMessages p other label
        (storeMessage p username newMessage tag files) = getContactMessages p other label files) ∧
      (¬ ApartFrom p username tag other label files → (getContactMessages p other label files).length <
        (getContactMessages p other label (storeMessage p username newMessage tag files)).length) := by
  obtain ⟨⟨path, reaches, next⟩, existing, readable⟩ := storable
  have still := reaches.opened_eq
  by_cases read : (withContact p username files).tree.resolve p.filesDir (fileNames other (getMessageStoreFilename label)) =
      some path
  · obtain ⟨later, before⟩ := getContactMessages_stored reaches readable next newMessage read
    have shared : ¬ ApartFrom p username tag other label files := by
      intro apart
      have elsewhere := apart.place path (by rw [still]; exact reaches.found)
      rw [still] at elsewhere
      exact elsewhere read
    refine ⟨fun apart => absurd apart shared, fun _ => ?_⟩
    rcases before with same | absent
    · rw [later, same, List.length_append]
      exact Nat.lt_succ_self _
    · rw [later, absent, List.length_append]
      exact Nat.succ_pos _
  · have unwritten : getContactMessages p other label (storeMessage p username newMessage tag files) =
        getContactMessages p other label (opened p username files) := by
      rw [storeMessage_eq reaches readable newMessage, getContactMessages_write read, still]
    refine ⟨fun apart => unwritten.trans apart.view, fun seen => ?_⟩
    have view : getContactMessages p other label (opened p username files) ≠ getContactMessages p other label files := by
      intro same
      refine seen ⟨fun place found => ?_, same⟩
      rw [still] at found ⊢
      cases Option.some.inj (reaches.found.symm.trans found)
      exact read
    rw [unwritten]
    -- Only a history that was out of sight can come into view.
    rw [still, getContactMessages_eq_messagesIn, getContactMessages_eq_messagesIn] at view
    rw [still, getContactMessages_eq_messagesIn, getContactMessages_eq_messagesIn]
    rcases @Grown.readFile p _ _ (@grown_withContact p username files) (fileNames other (getMessageStoreFilename label)) with
      same | absent
    · exact absurd (congrArg (messagesIn p) same) view
    · rw [absent] at view ⊢
      exact List.length_pos_iff.mpr view

theorem storesApart_of_untouched (storable : Storable p username tag files)
    (untouched : Untouched p [] other files (storeMessage p username newMessage tag files)) :
    StoresApart p username tag other files := by
  have apart : ∀ label, ApartFrom p username tag other label files := by
    intro label
    by_contra shared
    have longer := (storable.seen_iff newMessage other label).2 shared
    rw [untouched.histories label] at longer
    exact lt_irrefl _ longer
  obtain ⟨⟨path, reaches, next⟩, existing, readable⟩ := storable
  refine ⟨fun place found => ⟨?_, fun label => (apart label).place place found⟩, fun label => (apart label).view⟩
  rw [reaches.opened_eq] at found
  cases Option.some.inj (reaches.found.symm.trans found)
  by_contra outer
  have kept := untouched.outside path outer (List.forall_mem_nil _)
  have written := messagesIn_stored reaches readable next newMessage
  rw [kept, messagesIn_of_reached reaches readable] at written
  simp at written

end Stores

section Contacts

theorem untouched_removeKey {file : StorageFile} (member : file ∈ own) (key : String) (files : Files) :
    Untouched p own other files (removeKey p file key files) ∧
      ∀ path, (removeKey p file key files).tree.stat path = some .dir ↔ files.tree.stat path = some .dir := by
  rcases removeKey_cases file key files with same | ⟨text, wrote⟩
  · rw [same]
    exact ⟨.refl files, fun _ => Iff.rfl⟩
  · have dirs : ∀ path, (removeKey p file key files).tree.stat path = some .dir ↔ files.tree.stat path = some .dir := by
      intro path
      rw [wrote]
      exact Disk.stat_write_dir ..
    have others : ∀ path, file.path p ≠ path →
        (removeKey p file key files).tree.contents path = files.tree.contents path := by
      intro path differs
      rw [wrote, FileTree.contents, Disk.stat_write_of_ne _ _ differs]
      rfl
    refine ⟨⟨fun tag => ?_, fun path _ free => others path (Ne.symm (free file member))⟩, dirs⟩
    rw [wrote]
    apply getContactMessages_write
    intro found
    obtain ⟨contact, _, _, place⟩ := FileTree.resolve_last (getMessageStoreFilename tag).component found
    exact fileName_ne _ file (List.cons.inj place).1.symm

theorem Spares.congr (spares : Spares p own names other before) (untouched : Untouched p own other before after) :
    Spares p own names other after where
  inside path text held below := by
    by_cases inner : directory p <:+ path
    · exact .inl inner
    · by_cases free : ∃ file ∈ own, path = file.path p
      · exact .inr free
      · have same := untouched.outside path inner fun file member place => free ⟨file, member, place⟩
        exact spares.inside path text (same.symm.trans held) below
  beside tag := by
    rw [Beside, untouched.histories tag]
    exact spares.beside tag

theorem placeOf_contact_ne_nil {names : List String} (straight : FileTree.Straight p.filesDir ("messages" :: names)) :
    placeOf p ("messages" :: names) ≠ [] := by
  intro empty
  by_cases none_left : names = []
  · subst none_left
    cases empty
  · have below : placeOf p ("messages" :: names) <:+ placeOf p ["messages"] := by
      rw [empty]
      exact List.nil_suffix
    have same := straight ["messages"] (List.prefix_append ["messages"] names) (by simpa using none_left) below
    have place : placeOf p ["messages"] = [] := same.trans empty
    cases place

theorem untouched_deleted_iff (straight : FileTree.Straight p.filesDir ("messages" :: names)) :
    Untouched p own other files (deleted p ("messages" :: names) files) ↔
      DeletesApart p own ("messages" :: names) other files :=
  ⟨deletesApart_of_untouched straight (placeOf_contact_ne_nil straight), DeletesApart.untouched⟩

theorem deleteContact_steps (username other : String) (files : Files) :
    ∃ cleared, RNSignalClientModule.deleteContact p username files = deleted p (contactNames username) cleared ∧
      Untouched p (ContactOperation.deleteContact username).own other files cleared ∧
      (DeletesApart p (ContactOperation.deleteContact username).own (contactNames username) other files ↔
        DeletesApart p (ContactOperation.deleteContact username).own (contactNames username) other cleared) := by
  obtain ⟨first, firstDirs⟩ := @untouched_removeKey p other (ContactOperation.deleteContact username).own
    .IDENTITES_JSON_FILENAME (by simp [ContactOperation.own]) (addressText ⟨username, 1⟩) files
  obtain ⟨second, secondDirs⟩ := @untouched_removeKey p other (ContactOperation.deleteContact username).own
    .SESSIONS_JSON_FILENAME (by simp [ContactOperation.own]) (addressText ⟨username, 1⟩)
    (removeKey p .IDENTITES_JSON_FILENAME (addressText ⟨username, 1⟩) files)
  have untouched := first.trans second
  refine ⟨_, rfl, untouched, ?_⟩
  have resolved := FileTree.resolve_congr (fun path => (secondDirs path).trans (firstDirs path)) p.filesDir
    (contactNames username)
  unfold DeletesApart
  rw [removeIdentity, deleteSession, resolved]
  exact or_congr_right ⟨fun spares => spares.congr untouched, fun spares => spares.congr untouched.symm⟩

/-- What is done for one contact leaves the other alone when their places are apart, and only then unless the way to
    the place leads through what is deleted or the message is not stored. -/
theorem contacts_are_isolated_iff (p : Platform) (other : String) (files : Files) (operation : ContactOperation) :
    (Apart p other files operation → Untouched p operation.own other files (operation.run p files)) ∧
      (Plain p files operation →
        (Untouched p operation.own other files (operation.run p files) ↔ Apart p other files operation)) := by
  cases operation with
  | storeMessage username newMessage tag =>
    exact ⟨fun apart => apart.untouched newMessage, fun storable =>
      ⟨storesApart_of_untouched storable, fun apart => apart.untouched newMessage⟩⟩
  | deleteContactMessages username tag => exact ⟨DeletesApart.untouched, untouched_deleted_iff⟩
  | deleteAllContactMessages username => exact ⟨DeletesApart.untouched, untouched_deleted_iff⟩
  | deleteContact username =>
    obtain ⟨cleared, steps, untouched, same⟩ := @deleteContact_steps p username other files
    have onward : ∀ {after}, Untouched p (ContactOperation.deleteContact username).own other files after ↔
        Untouched p (ContactOperation.deleteContact username).own other cleared after :=
      ⟨untouched.symm.trans, untouched.trans⟩
    rw [ContactOperation.run, steps, Apart, same, onward]
    exact ⟨DeletesApart.untouched, untouched_deleted_iff⟩

end Contacts

section Components

variable {username : String}

theorem components_fileNames (single : Component username) (file : HistoryFile) :
    fileNames username file = ["messages", username, file.fileName] := by
  rw [fileNames, contactNames, single.components]
  rfl

theorem fileNames_single (single : Component username) (file : HistoryFile) :
    ∀ name ∈ fileNames username file, Component name := by
  rw [components_fileNames single]
  intro name member
  simp only [List.mem_cons, List.not_mem_nil, or_false] at member
  rcases member with rfl | rfl | rfl
  · decide
  · exact single
  · exact file.component

/-- The way to a history passes the files directory, the messages and the contact's own directory. -/
theorem not_passed (single : Component other) (differs : username ≠ other) (file : HistoryFile) {front : List String}
    (prior : front <+: fileNames other file) : ¬ username :: directory p <:+ placeOf p front := by
  have part : ∀ name ∈ front, Component name := fun name member => fileNames_single single file name (prior.subset member)
  rw [placeOf, FileTree.foldl_walk part]
  rw [components_fileNames single] at prior
  intro below
  have lengths := below.length_le
  rcases front with _ | ⟨first, _ | ⟨second, rest⟩⟩
  · rw [List.reverse_nil, List.nil_append, List.length_cons, directory, List.length_cons] at lengths
    omega
  · rw [List.reverse_singleton, List.singleton_append, List.length_cons, List.length_cons, directory,
      List.length_cons] at lengths
    omega
  · obtain ⟨rfl, onward⟩ := List.cons_prefix_cons.mp prior
    obtain ⟨rfl, _⟩ := List.cons_prefix_cons.mp onward
    have place : second :: directory p <:+ ("messages" :: second :: rest).reverse ++ p.filesDir :=
      ⟨rest.reverse, by simp [directory]⟩
    have same := (List.suffix_of_suffix_length_le below place le_rfl).eq_of_length rfl
    exact differs (List.cons.inj same).1

theorem deletesApart_of_components (single : Component username) (alone : Component other) (differs : username ≠ other)
    {back : List String} (part : ∀ name ∈ back, Component name) (files : Files) :
    DeletesApart p own (contactNames username ++ back) other files := by
  have place : placeOf p (contactNames username ++ back) = back.reverse ++ username :: directory p := by
    have all : ∀ name ∈ contactNames username ++ back, Component name := by
      rw [contactNames, single.components]
      intro name member
      simp only [List.cons_append, List.nil_append, List.mem_cons] at member
      rcases member with rfl | rfl | later
      · decide
      · exact single
      · exact part name later
    rw [placeOf, FileTree.foldl_walk all, contactNames, single.components]
    simp [directory]
  have lower : username :: directory p <:+ placeOf p (contactNames username ++ back) := by
    rw [place]
    exact List.suffix_append ..
  refine .inr ⟨fun path text _ below => .inl ?_, fun tag => .inr fun front prior below => ?_⟩
  · exact (List.suffix_cons username (directory p)).trans (lower.trans below)
  · exact not_passed alone differs _ prior (lower.trans below)

/-- Names that are single path components keep their histories apart, and so do the files of one name. -/
theorem apartFrom_of_components {tag label : String} (single : Component username) (alone : Component other)
    (differs : username ≠ other ∨ getMessageStoreFilename tag ≠ getMessageStoreFilename label) :
    ApartFrom p username tag other label files where
  place path found read := by
    have place := FileTree.resolve_plain (fileNames_single single _) found
    have same := FileTree.resolve_plain (fileNames_single alone _) read
    rw [components_fileNames single] at place
    rw [components_fileNames alone, place] at same
    rcases differs with differs | differs
    · exact differs (List.cons.inj (List.cons.inj same).2).1
    · exact differs (HistoryFile.fileName_injective (List.cons.inj same).1)
  view := by
    rw [getContactMessages_eq_messagesIn, getContactMessages_eq_messagesIn, FileTree.readFile_eq _ (fileNames_single alone _),
      FileTree.readFile_eq _ (fileNames_single alone _), (@grown_opened p username files).texts,
      (@grown_withContact p username files).texts]

end Components

def exchanged : Files :=
  storeMessage .plain "carol" (.str "hello") "chat" (ProtocolStorage.storeSession .plain ⟨"bob", 1⟩ ⟨[1]⟩ noFiles)

theorem deleted_contact_is_apart : Untouched .plain (ContactOperation.deleteContact "bob").own "carol" exchanged
    (RNSignalClientModule.deleteContact .plain "bob" exchanged) := by
  have apart : DeletesApart .plain (ContactOperation.deleteContact "bob").own (contactNames "bob" ++ []) "carol" exchanged :=
    deletesApart_of_components (by decide) (by decide) (by decide) (List.forall_mem_nil _) exchanged
  exact (contacts_are_isolated_iff .plain "carol" exchanged (.deleteContact "bob")).1 apart

/-- The empty name stands for all contacts, and a name may lead to the files of the protocol. -/
theorem names_reach_other_files :
    getContactMessages .plain "carol" "chat" exchanged = [.str "hello"] ∧
      getContactMessages .plain "carol" "chat" (deleteAllContactMessages .plain "" exchanged) = [] ∧
      ProtocolStorage.containsSession .plain ⟨"bob", 1⟩ exchanged = true ∧
      ProtocolStorage.containsSession .plain ⟨"bob", 1⟩ (deleteAllContactMessages .plain "../signal" exchanged) = false := by
  decide +kernel

end PillarSignal.Android.MessageStorage
