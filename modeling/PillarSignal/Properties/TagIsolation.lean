import PillarSignal.Properties.ContactIsolation
import PillarSignal.Ios.MessagesStorage

namespace PillarSignal

open Storage

inductive MessageOperation where
  | storeMessage (username : String) (message : Ios.Dictionary) (tag : String)
  | deleteContactMessages (username tag : String)
  | deleteAllContactMessages (username : String)

namespace MessageOperation

def runAndroid (p : Android.Platform) : MessageOperation → Android.Files → Android.Files
  | storeMessage username message tag => Android.MessageStorage.storeMessage p username (.obj message) tag
  | deleteContactMessages username tag => Android.MessageStorage.deleteContactMessages p username tag
  | deleteAllContactMessages username => Android.MessageStorage.deleteAllContactMessages p username

def runIos : MessageOperation → Ios.Archives → Ios.Archives
  | storeMessage username message tag => Ios.MessagesStorage.save ⟨message⟩ username tag
  | deleteContactMessages username tag => Ios.MessagesStorage.deleteContactMessages username tag
  | deleteAllContactMessages username => Ios.MessagesStorage.deleteAllContactMessages username

def runsAndroid (p : Android.Platform) (operations : List MessageOperation) (files : Android.Files) : Android.Files :=
  operations.foldl (fun files operation => operation.runAndroid p files) files

def runsIos (operations : List MessageOperation) (archives : Ios.Archives) : Ios.Archives :=
  operations.foldl (fun archives operation => operation.runIos archives) archives

end MessageOperation

namespace Android.MessageStorage

/-- The two tags have two files, and the new directories bring no message of the other tag into view. -/
structure StoresBeside (p : Platform) (username tag other : String) (files : Files) : Prop where
  differs : getMessageStoreFilename tag ≠ getMessageStoreFilename other
  view : getContactMessages p username other (opened p username files) = getContactMessages p username other files

/-- The deletion for one tag goes nowhere, or beside the history of the other tag. -/
def DeletesBeside (p : Platform) (username tag other : String) (files : Files) : Prop :=
  files.tree.resolve p.filesDir (fileNames username (getMessageStoreFilename tag)) = none ∨
    Beside p (fileNames username (getMessageStoreFilename tag)) username other files

variable {p : Platform} {username tag other : String} {files : Files} {newMessage : Json}

theorem resolve_apart (differs : getMessageStoreFilename tag ≠ getMessageStoreFilename other) {path : Path}
    (found : files.tree.resolve p.filesDir (fileNames username (getMessageStoreFilename tag)) = some path) :
    files.tree.resolve p.filesDir (fileNames username (getMessageStoreFilename other)) ≠ some path := by
  intro read
  obtain ⟨contact, _, _, rfl⟩ := FileTree.resolve_last (getMessageStoreFilename tag).component found
  obtain ⟨directory, _, _, place⟩ := FileTree.resolve_last (getMessageStoreFilename other).component read
  exact differs (HistoryFile.fileName_injective (List.cons.inj place).1)

theorem StoresBeside.kept (beside : StoresBeside p username tag other files) (newMessage : Json) :
    getContactMessages p username other (storeMessage p username newMessage tag files) =
      getContactMessages p username other files := by
  rcases storeMessage_cases username newMessage tag files with stays | stays | ⟨path, text, found, stays⟩
  · rw [stays, getContactMessages_withContact]
  · rw [stays, beside.view]
  · rw [stays, getContactMessages_write (resolve_apart beside.differs found), beside.view]

theorem storesBeside_of_kept (storable : Storable p username tag files)
    (kept : getContactMessages p username other (storeMessage p username newMessage tag files) =
      getContactMessages p username other files) : StoresBeside p username tag other files where
  differs := by
    intro same
    have appended := storable.appended newMessage
    have alike : ∀ files, getContactMessages p username other files = getContactMessages p username tag files := by
      intro files
      rw [getContactMessages, getContactMessages, same]
    rw [alike, alike, appended] at kept
    simp at kept
  view := by
    obtain ⟨path, reaches, _⟩ := storable.place
    rw [reaches.opened_eq, getContactMessages_withContact]

theorem DeletesBeside.kept (beside : DeletesBeside p username tag other files) :
    getContactMessages p username other (deleteContactMessages p username tag files) =
      getContactMessages p username other files := by
  rcases beside with nowhere | beside
  · rw [deleteContactMessages, FileTree.deleteAt_of_nowhere nowhere]
  · exact beside.getContactMessages_deleted

theorem deletesBeside_of_kept
    (straight : FileTree.Straight p.filesDir (fileNames username (getMessageStoreFilename tag)))
    (kept : getContactMessages p username other (deleteContactMessages p username tag files) =
      getContactMessages p username other files) : DeletesBeside p username tag other files := by
  cases reached : files.tree.resolve p.filesDir (fileNames username (getMessageStoreFilename tag)) with
  | none => exact .inl reached
  | some path => exact .inr (beside_of_unchanged straight (placeOf_contact_ne_nil straight) (resolve_eq_placeOf reached) kept)

section Components

theorem placeOf_fileNames (single : Component username) (file : HistoryFile) :
    placeOf p (fileNames username file) = file.fileName :: username :: directory p := by
  rw [placeOf, FileTree.foldl_walk (fileNames_single single file), components_fileNames single]
  rfl

theorem storesBeside_iff (single : Component username) :
    StoresBeside p username tag other files ↔ getMessageStoreFilename tag ≠ getMessageStoreFilename other := by
  refine ⟨StoresBeside.differs, fun differs => ⟨differs, ?_⟩⟩
  rw [getContactMessages_eq_messagesIn, getContactMessages_eq_messagesIn, FileTree.readFile_eq _ (fileNames_single single _),
    FileTree.readFile_eq _ (fileNames_single single _), (@grown_opened p username files).texts,
    (@grown_withContact p username files).texts]

theorem deletesBeside_iff (single : Component username) :
    DeletesBeside p username tag other files ↔
      getMessageStoreFilename tag ≠ getMessageStoreFilename other ∨ getContactMessages p username other files = [] := by
  by_cases differs : getMessageStoreFilename tag = getMessageStoreFilename other
  · have empty : DeletesBeside p username tag other files ↔ getContactMessages p username other files = [] := by
      refine ⟨?_, fun empty => .inr (.inl empty)⟩
      rintro (nowhere | empty | beside)
      · rw [differs] at nowhere
        rw [getContactMessages_eq_messagesIn, FileTree.readFile, nowhere]
        rfl
      · exact empty
      · rw [differs] at beside
        exact absurd List.suffix_rfl (beside _ List.prefix_rfl)
    simp [empty, differs]
  · have beside : DeletesBeside p username tag other files := by
      refine .inr (.inr fun front prior below => ?_)
      have part : ∀ name ∈ front, Component name :=
        fun name member => fileNames_single single _ name (prior.subset member)
      rw [placeOf_fileNames single, placeOf, FileTree.foldl_walk part] at below
      have lengths := below.length_le
      have shorter := prior.length_le
      rw [components_fileNames single] at shorter
      simp [directory] at lengths shorter
      have whole : front = fileNames username (getMessageStoreFilename other) := by
        apply prior.eq_of_length
        rw [components_fileNames single]
        simp
        omega
      rw [whole, components_fileNames single] at below
      have same := below.eq_of_length (by simp [directory])
      exact differs (HistoryFile.fileName_injective (List.cons.inj same).1)
    simp [beside, differs]

end Components

end Android.MessageStorage

namespace Ios.MessagesStorage

variable {username tag other : String}

theorem kept_of_save_iff (message : ParsedMessageDTO) (archives : Archives) :
    getMessages username other (save message username tag archives) = getMessages username other archives ↔
      getMessageStorageFilename tag ≠ getMessageStorageFilename other := by
  rw [getMessages_save]
  by_cases same : getMessageStorageFilename other = getMessageStorageFilename tag
  · simp [same]
  · simp [same, Ne.symm same]

theorem kept_of_deleteContactMessages_iff (archives : Archives) :
    getMessages username other (deleteContactMessages username tag archives) = getMessages username other archives ↔
      getMessageStorageFilename tag ≠ getMessageStorageFilename other ∨ getMessages username other archives = [] := by
  rw [getMessages_deleteContactMessages]
  by_cases same : getMessageStorageFilename other = getMessageStorageFilename tag
  · rw [if_pos ⟨rfl, same⟩, same, eq_comm]
    simp
  · simp [same, Ne.symm same]

end Ios.MessagesStorage

def MessageOperation.KeepsAndroid (p : Android.Platform) (username tag : String) (files : Android.Files)
    (operation : MessageOperation) : Prop :=
  Android.MessageStorage.getContactMessages p username tag (operation.runAndroid p files) =
    Android.MessageStorage.getContactMessages p username tag files

def MessageOperation.KeepsIos (username tag : String) (archives : Ios.Archives) (operation : MessageOperation) : Prop :=
  Ios.MessagesStorage.getMessages username tag (operation.runIos archives) =
    Ios.MessagesStorage.getMessages username tag archives

open Android.MessageStorage Ios.MessagesStorage MessageOperation in
/-- A tag is apart from the tags that are kept in other files, and from no others. -/
theorem tags_are_isolated_iff (p : Android.Platform) (start : Android.Files) (initial : Ios.Archives)
    (operations : List MessageOperation) (username tag other : String) (message : Ios.Dictionary) :
    let files := runsAndroid p operations start
    let archives := runsIos operations initial
    ((StoresBeside p username tag other files → KeepsAndroid p username other files (.storeMessage username message tag)) ∧
      (Storable p username tag files → (KeepsAndroid p username other files (.storeMessage username message tag) ↔
        StoresBeside p username tag other files))) ∧
    ((DeletesBeside p username tag other files → KeepsAndroid p username other files (.deleteContactMessages username tag)) ∧
      (FileTree.Straight p.filesDir (fileNames username (getMessageStoreFilename tag)) →
        (KeepsAndroid p username other files (.deleteContactMessages username tag) ↔
          DeletesBeside p username tag other files))) ∧
    (Component username →
      (StoresBeside p username tag other files ↔ getMessageStoreFilename tag ≠ getMessageStoreFilename other) ∧
      (DeletesBeside p username tag other files ↔
        getMessageStoreFilename tag ≠ getMessageStoreFilename other ∨ getContactMessages p username other files = [])) ∧
    (KeepsIos username other archives (.storeMessage username message tag) ↔
      getMessageStorageFilename tag ≠ getMessageStorageFilename other) ∧
    (KeepsIos username other archives (.deleteContactMessages username tag) ↔
      getMessageStorageFilename tag ≠ getMessageStorageFilename other ∨ getMessages username other archives = []) := by
  intro files archives
  refine ⟨⟨fun beside => beside.kept _, fun storable => ⟨storesBeside_of_kept storable, fun beside => beside.kept _⟩⟩,
    ⟨DeletesBeside.kept, fun straight => ⟨deletesBeside_of_kept straight, DeletesBeside.kept⟩⟩,
    fun single => ⟨storesBeside_iff single, deletesBeside_iff single⟩, kept_of_save_iff ⟨message⟩ archives,
    kept_of_deleteContactMessages_iff archives⟩

open Android.MessageStorage Ios.MessagesStorage MessageOperation

def tagged : List MessageOperation :=
  [.storeMessage "carol" [("content", .str "hi")] "offers", .storeMessage "carol" [("content", .str "lunch")] "chat"]

theorem notes_are_apart_from_chat :
    KeepsAndroid .plain "carol" "chat" (runsAndroid .plain tagged Android.noFiles)
        (.storeMessage "carol" [("content", .str "rent")] "tx-note") ∧
      KeepsIos "carol" "chat" (runsIos tagged Ios.noArchives) (.deleteContactMessages "carol" "offers") := by
  have isolated := tags_are_isolated_iff .plain Android.noFiles Ios.noArchives tagged "carol"
  have notes := isolated "tx-note" "chat" [("content", .str "rent")]
  have offers := isolated "offers" "chat" []
  refine ⟨notes.1.1 ((notes.2.2.1 (by decide)).1.mpr (by decide)), offers.2.2.2.2.mpr (.inl (by decide))⟩

theorem other_tags_share_a_file :
    getContactMessages .plain "carol" "offers" (runsAndroid .plain tagged Android.noFiles) =
        [.obj [("content", .str "hi")]] ∧
      getContactMessages .plain "carol" "offers"
        (deleteContactMessages .plain "carol" "news" (runsAndroid .plain tagged Android.noFiles)) = [] ∧
      getMessages "carol" "offers" (runsIos tagged Ios.noArchives) = [⟨[("content", .str "hi")]⟩] ∧
      getMessages "carol" "offers"
        (Ios.MessagesStorage.deleteContactMessages "carol" "news" (runsIos tagged Ios.noArchives)) = [] := by
  decide +kernel

end PillarSignal
