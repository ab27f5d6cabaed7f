import PillarSignal.Android.MessageStorage
import PillarSignal.Android.ProtocolFiles

namespace PillarSignal.Android.MessageStorage

open Storage

variable {p : Platform}

theorem HistoryFile.component (file : HistoryFile) : Component file.fileName := by
  cases file <;> decide

theorem HistoryFile.fileName_injective : Function.Injective HistoryFile.fileName := by
  intro a b same
  cases a <;> cases b <;> first | rfl | exact absurd same (by decide)

theorem fileName_ne (file : HistoryFile) (other : ProtocolStorage.StorageFile) : file.fileName ≠ other.fileName := by
  cases file <;> cases other <;> decide

def historyOf (p : Platform) : Option (List Char) → Except Thrown (List Json)
  | none | some [] => .ok []
  | some text => p.json.newJSONArray text

theorem readHistory_eq (username : String) (file : HistoryFile) (files : Files) :
    readHistory p username file files = historyOf p (readFromStorage p username file files) := by
  have nothing : p.json.newJSONArray ['[', ']'] = .ok [] := by
    rw [OrgJson.newJSONArray, p.json.parse_no_items]
  rw [readHistory]
  split <;> rename_i held <;> rw [held]
  · exact nothing
  · exact nothing
  · rename_i some_text
    rw [historyOf]
    exact some_text

theorem historyOf_print (messages : List Json) :
    historyOf p (some (joinLines (p.json.print (.arr messages)))) = .ok messages := by
  rw [joinLines_of_unbroken (p.json.print_unbroken _), historyOf, OrgJson.newJSONArray, p.json.parse_print]
  exact p.json.print_ne_nil _

/-- A history's path text leads to a place where a file is or can be. -/
structure Reaches (p : Platform) (username : String) (file : HistoryFile) (files : Files) (path : Path) : Prop where
  found : files.tree.resolve p.filesDir (fileNames username file) = some path
  leaf : files.tree.stat path ≠ some .dir

theorem Reaches.parent {username : String} {file : HistoryFile} {files : Files} {path : Path}
    (reaches : Reaches p username file files path) :
    ∃ contact, path = file.fileName :: contact ∧ files.tree.stat contact = some .dir := by
  obtain ⟨contact, _, parent, place⟩ := FileTree.resolve_last file.component reaches.found
  exact ⟨contact, place, parent⟩

theorem Reaches.readFromStorage_eq {username : String} {file : HistoryFile} {files : Files} {path : Path}
    (reaches : Reaches p username file files path) :
    readFromStorage p username file files = (files.tree.contents path).map joinLines := by
  rw [readFromStorage, FileTree.readFile, reaches.found, Option.bind_some]

theorem Reaches.congr {username : String} {file : HistoryFile} {before after : Files} {path : Path}
    (reaches : Reaches p username file before path)
    (kept : ∀ other, before.tree.stat other = some .dir → after.tree.stat other = some .dir)
    (same : after.tree.stat path = before.tree.stat path) :
    Reaches p username file after path ∧
      readHistory p username file after = readHistory p username file before := by
  have later : Reaches p username file after path :=
    ⟨FileTree.resolve_mono kept reaches.found, by rw [same]; exact reaches.leaf⟩
  refine ⟨later, ?_⟩
  rw [readHistory_eq, readHistory_eq, later.readFromStorage_eq, reaches.readFromStorage_eq]
  unfold FileTree.contents
  rw [same]

theorem Reaches.framed {username : String} {file : HistoryFile} {before after : Files} {path : Path}
    (reaches : Reaches p username file before path) (framed : ProtocolStorage.Framed p before after) :
    Reaches p username file after path ∧
      readHistory p username file after = readHistory p username file before := by
  apply reaches.congr
  · intro other dir
    rcases framed.stat other with same | ⟨absent, _⟩ | ⟨_, _, _, leaf, _⟩
    · rw [same, dir]
    · rw [dir] at absent
      cases absent
    · exact absurd dir leaf
  · obtain ⟨contact, rfl, _⟩ := reaches.parent
    apply framed.stat_eq
    · intro below
      rcases List.suffix_cons_iff.mp below with same | below
      · have heads := (List.cons.inj same).1
        cases file <;> exact absurd heads (by decide)
      · -- the files directory is there, so everything above it is a directory
        have start := FileTree.resolve_start reaches.found
        rcases FileTree.Clear.of_dir start _ below with absent | dir
        · have above := before.tree.stat_ancestor (by rw [start]; rfl) below
          rw [absent] at above
          cases above
        · exact reaches.leaf dir
    · intro other place
      exact fileName_ne file other (List.cons.inj place).1

theorem getContactMessages_eq {before after : Files} {username : String} {tag : String}
    (same : readFromStorage p username (getMessageStoreFilename tag) after =
      readFromStorage p username (getMessageStoreFilename tag) before) :
    getContactMessages p username tag after = getContactMessages p username tag before := by
  rw [getContactMessages, getContactMessages, readHistory_eq, readHistory_eq, same]

theorem getContactMessages_of_no_directory {files : Files} (absent : files.tree.stat (directory p) ≠ some .dir)
    (username tag : String) : getContactMessages p username tag files = [] := by
  have unread : readFromStorage p username (getMessageStoreFilename tag) files = none := by
    rw [readFromStorage, FileTree.readFile]
    cases found : files.tree.resolve p.filesDir (fileNames username (getMessageStoreFilename tag)) with
    | none => rfl
    | some path =>
      have front : files.tree.resolve p.filesDir (["messages"] ++ (components username ++
          [(getMessageStoreFilename tag).fileName])) = some path := found
      rw [FileTree.resolve_append] at front
      obtain ⟨middle, reached, onward⟩ := Option.bind_eq_some_iff.mp front
      obtain ⟨name, rest, shape⟩ := List.exists_cons_of_ne_nil
        (show components username ++ [(getMessageStoreFilename tag).fileName] ≠ [] by simp)
      rw [shape] at onward
      have dir := FileTree.resolve_start onward
      have place : middle = directory p := by
        rw [FileTree.resolve] at reached
        split at reached
        · rw [(show Component "messages" by decide).walk] at reached
          exact (Option.some.inj reached).symm
        · cases reached
      exact absurd (place ▸ dir) absent
  rw [getContactMessages, readHistory_eq, unread]
  rfl

def deleteBelow (p : Platform) (names : List String) (files : Files) : Files :=
  { files with tree := files.tree.deleteAt p.filesDir ("messages" :: names) }

theorem stat_deleteBelow {names : List String} (single : ∀ name ∈ names, Component name) (files : Files) (other : Path) :
    (deleteBelow p names files).tree.stat other =
      if names.reverse ++ directory p <:+ other then none else files.tree.stat other := by
  have all : ∀ name ∈ "messages" :: names, Component name :=
    List.forall_mem_cons.mpr ⟨by decide, single⟩
  rw [deleteBelow, files.tree.stat_deleteAt all p.filesDir (by simp), directory]
  simp

theorem stat_deleteAll (files : Files) (other : Path) :
    (deleteAll p files).tree.stat other = if directory p <:+ other then none else files.tree.stat other :=
  @stat_deleteBelow p [] (by simp) files other

theorem protocol_beside (file : ProtocolStorage.StorageFile) : ¬ directory p <:+ file.path p := by
  intro below
  have shape : "messages" :: p.filesDir <:+ file.fileName :: "signal" :: p.filesDir := below
  rcases List.suffix_cons_iff.mp shape with same | shape
  · have lengths := congrArg List.length same
    simp at lengths
  · rcases List.suffix_cons_iff.mp shape with same | shape
    · exact absurd (List.cons.inj same).1 (by decide)
    · exact FileTree.not_cons_suffix _ _ shape

theorem protocol_not_below (names : List String) (file : ProtocolStorage.StorageFile) :
    ¬ names.reverse ++ directory p <:+ file.path p :=
  fun below => protocol_beside file ((List.suffix_append names.reverse _).trans below)

theorem readObject_deleteBelow {names : List String} (single : ∀ name ∈ names, Component name)
    (file : ProtocolStorage.StorageFile) (files : Files) :
    ProtocolStorage.readObject p file (deleteBelow p names files) = ProtocolStorage.readObject p file files := by
  have kept : (deleteBelow p names files).tree.contents (file.path p) = files.tree.contents (file.path p) := by
    unfold FileTree.contents
    rw [stat_deleteBelow single, if_neg (protocol_not_below names file)]
  rw [ProtocolStorage.readObject_eq, kept, ProtocolStorage.readObject_eq]

theorem ready_deleteBelow {names : List String} (single : ∀ name ∈ names, Component name) {files : Files}
    (ready : ProtocolStorage.Ready p files) : ProtocolStorage.Ready p (deleteBelow p names files) where
  sound := ready.sound
  clear := by
    intro path below
    rw [stat_deleteBelow single]
    split
    · exact .inl rfl
    · exact ready.clear path below
  plain := by
    intro file
    rw [stat_deleteBelow single, if_neg (protocol_not_below names file)]
    exact ready.plain file

theorem readObject_deleteAll (file : ProtocolStorage.StorageFile) (files : Files) :
    ProtocolStorage.readObject p file (deleteAll p files) = ProtocolStorage.readObject p file files :=
  @readObject_deleteBelow p [] (by simp) file files

theorem ready_deleteAll {files : Files} (ready : ProtocolStorage.Ready p files) :
    ProtocolStorage.Ready p (deleteAll p files) := @ready_deleteBelow p [] (by simp) files ready

theorem deleteAllContactMessages_eq {username : String} (single : Component username) (files : Files) :
    deleteAllContactMessages p username files = deleteBelow p [username] files := by
  rw [deleteAllContactMessages, contactNames, single.components, deleteBelow]

theorem deleteContactMessages_eq {username : String} (single : Component username) (tag : String) (files : Files) :
    deleteContactMessages p username tag files =
      deleteBelow p [username, (getMessageStoreFilename tag).fileName] files := by
  rw [deleteContactMessages, fileNames, contactNames, single.components, deleteBelow]
  rfl

theorem readObject_storeMessage (username : String) (newMessage : Json) (tag : String)
    (file : ProtocolStorage.StorageFile) (files : Files) :
    ProtocolStorage.readObject p file (storeMessage p username newMessage tag files) =
      ProtocolStorage.readObject p file files := by
  have kept : (storeMessage p username newMessage tag files).tree.contents (file.path p) =
      files.tree.contents (file.path p) := by
    unfold storeMessage
    dsimp only
    split
    · exact files.tree.contents_makeDirs ..
    · unfold writeToStorageFile
      dsimp only
      split
      · rename_i path found
        have apart : path ≠ file.path p := by
          obtain ⟨contact, _, _, rfl⟩ := FileTree.resolve_last (getMessageStoreFilename tag).component found
          intro same
          exact fileName_ne _ file (List.cons.inj same).1
        unfold FileTree.contents
        rw [Disk.stat_write_of_ne _ _ apart]
        exact ((files.tree.makeDirs p.filesDir (contactNames username)).contents_makeDirs ..).trans
          (files.tree.contents_makeDirs ..)
      · simp
  rw [ProtocolStorage.readObject_eq, kept, ProtocolStorage.readObject_eq]

theorem sound_storeMessage {files : Files} (sound : files.Sound) (username : String) (newMessage : Json) (tag : String) :
    (storeMessage p username newMessage tag files).Sound := by
  unfold storeMessage
  dsimp only
  split
  · exact sound
  · unfold writeToStorageFile
    dsimp only
    split
    · apply Disk.Sound.write
      exact sound
    · exact sound

theorem directory_beside : ¬ directory p <:+ ProtocolStorage.directory p := by
  intro below
  rcases List.suffix_cons_iff.mp below with same | below
  · exact absurd (List.cons.inj same).1 (by decide)
  · exact FileTree.not_cons_suffix _ _ below

theorem directory_ne_path (file : ProtocolStorage.StorageFile) : directory p ≠ file.path p := by
  intro same
  have lengths := congrArg List.length same
  simp [directory, ProtocolStorage.StorageFile.path, ProtocolStorage.directory] at lengths

theorem readFromStorage_framed {before after : Files} (framed : ProtocolStorage.Framed p before after)
    (dir : before.tree.stat (ProtocolStorage.directory p) = some .dir) (username : String) (file : HistoryFile) :
    readFromStorage p username file after = readFromStorage p username file before := by
  have present : ∀ path, path <:+ ProtocolStorage.directory p → before.tree.stat path ≠ none := by
    intro path below absent
    have above := before.tree.stat_ancestor (by rw [dir]; rfl) below
    rw [absent] at above
    cases above
  have dirs : ∀ path, after.tree.stat path = some .dir ↔ before.tree.stat path = some .dir := by
    intro path
    rcases framed.stat path with same | ⟨absent, _, below⟩ | ⟨_, _, _, leaf, wrote⟩
    · rw [same]
    · exact absurd absent (present path below)
    · simp [wrote, leaf]
  rw [readFromStorage, readFromStorage, FileTree.readFile, FileTree.readFile, FileTree.resolve_congr dirs]
  cases found : before.tree.resolve p.filesDir (fileNames username file) with
  | none => rfl
  | some path =>
    obtain ⟨contact, _, _, rfl⟩ := FileTree.resolve_last file.component found
    have same : after.tree.stat (file.fileName :: contact) = before.tree.stat (file.fileName :: contact) := by
      rcases framed.stat (file.fileName :: contact) with same | ⟨absent, _, below⟩ | ⟨other, _, place, _⟩
      · exact same
      · exact absurd absent (present _ below)
      · exact absurd (List.cons.inj place).1 (fileName_ne file other)
    rw [Option.bind_some, Option.bind_some, FileTree.contents, FileTree.contents, same]

def withContact (p : Platform) (username : String) (files : Files) : Files :=
  { files with tree := files.tree.makeDirs p.filesDir (contactNames username) }

theorem Reaches.withContact_eq {username : String} {file : HistoryFile} {files : Files} {path : Path}
    (reaches : Reaches p username file files path) : withContact p username files = files := by
  rw [withContact, FileTree.makeDirs_of_resolve reaches.found (by simp)]

/-- A message can be appended to the history: the place is free or holds a file, what is there
    is a list, and the write succeeds. -/
structure Storable (p : Platform) (username tag : String) (files : Files) : Prop where
  place : ∃ path, Reaches p username (getMessageStoreFilename tag) (withContact p username files) path ∧
    files.NextWritten path
  readable : ∃ messages, readHistory p username (getMessageStoreFilename tag) (withContact p username files) =
    .ok messages

theorem storeMessage_eq {username tag : String} {files : Files} {path : Path} {messages : List Json}
    (reaches : Reaches p username (getMessageStoreFilename tag) (withContact p username files) path)
    (readable : readHistory p username (getMessageStoreFilename tag) (withContact p username files) = .ok messages)
    (newMessage : Json) : storeMessage p username newMessage tag files =
      (withContact p username files).write path (p.json.print (.arr (messages ++ [newMessage]))) := by
  have opened : (withContact p username files).tree.makeDirs p.filesDir ["messages"] =
      (withContact p username files).tree :=
    FileTree.makeDirs_of_resolve (by exact reaches.found) (by simp)
  rw [storeMessage, ← withContact]
  simp only [readable, writeToStorageFile, opened, reaches.found]

theorem Storable.stored {username tag : String} {files : Files} (storable : Storable p username tag files)
    (newMessage : Json) : ∃ path messages,
      Reaches p username (getMessageStoreFilename tag) (storeMessage p username newMessage tag files) path ∧
      readHistory p username (getMessageStoreFilename tag) (withContact p username files) = .ok messages ∧
      readHistory p username (getMessageStoreFilename tag) (storeMessage p username newMessage tag files) =
        .ok (messages ++ [newMessage]) := by
  obtain ⟨⟨path, reaches, next⟩, messages, readable⟩ := storable
  refine ⟨path, messages, ?_⟩
  rw [storeMessage_eq reaches readable]
  obtain ⟨contact, rfl, parent⟩ := reaches.parent
  have next : (withContact p username files).NextWritten _ := next
  have tree := next.write_tree (p.json.print (.arr (messages ++ [newMessage])))
  have held := (withContact p username files).tree.stat_write (p.json.print (.arr (messages ++ [newMessage])))
    parent reaches.leaf
  have later : Reaches p username (getMessageStoreFilename tag)
      ((withContact p username files).write ((getMessageStoreFilename tag).fileName :: contact)
        (p.json.print (.arr (messages ++ [newMessage]))))
      ((getMessageStoreFilename tag).fileName :: contact) := by
    refine ⟨?_, by rw [tree, held]; simp⟩
    rw [tree, FileTree.resolve_congr (fun other => FileTree.stat_write_dir ..)]
    exact reaches.found
  refine ⟨later, readable, ?_⟩
  rw [readHistory_eq, later.readFromStorage_eq, tree, FileTree.contents, held, if_pos rfl]
  exact historyOf_print _

theorem readHistory_withContact (username : String) (file : HistoryFile) (files : Files) :
    readHistory p username file (withContact p username files) = readHistory p username file files := by
  rw [readHistory_eq, readHistory_eq, readFromStorage, readFromStorage]
  congr 2
  exact files.tree.readFile_makeDirs p.filesDir (contactNames username) file.component

theorem getContactMessages_withContact (username tag : String) (files : Files) :
    getContactMessages p username tag (withContact p username files) = getContactMessages p username tag files := by
  rw [getContactMessages, getContactMessages, readHistory_withContact]

def messagesIn (p : Platform) (text : Option (List Char)) : List Json :=
  match historyOf p (text.map joinLines) with
  | .error _ => []
  | .ok messages => messages

theorem getContactMessages_eq_messagesIn (username tag : String) (files : Files) :
    getContactMessages p username tag files =
      messagesIn p (files.tree.readFile p.filesDir (fileNames username (getMessageStoreFilename tag))) := by
  have step : historyOf p ((files.tree.readFile p.filesDir (fileNames username (getMessageStoreFilename tag))).map
      joinLines) = readHistory p username (getMessageStoreFilename tag) files := by
    rw [readHistory_eq, readFromStorage]
  unfold getContactMessages messagesIn
  cases reading : readHistory p username (getMessageStoreFilename tag) files <;> simp only [step.trans reading]

theorem messagesIn_print (messages : List Json) : messagesIn p (some (p.json.print (.arr messages))) = messages := by
  rw [messagesIn, Option.map_some, historyOf_print]

theorem contents_withContact (username : String) (files : Files) (path : Path) :
    (withContact p username files).tree.contents path = files.tree.contents path := files.tree.contents_makeDirs ..

section Reached

variable {username tag : String} {files : Files} {path : Path} {existing : List Json} {message : Json}
  (reaches : Reaches p username (getMessageStoreFilename tag) (withContact p username files) path)
  (readable : readHistory p username (getMessageStoreFilename tag) (withContact p username files) = .ok existing)
include reaches readable

theorem messagesIn_of_reached : messagesIn p (files.tree.contents path) = existing := by
  have history : getContactMessages p username tag (withContact p username files) = existing := by
    rw [getContactMessages, readable]
  rw [← history, getContactMessages_eq_messagesIn, FileTree.readFile, reaches.found, Option.bind_some,
    contents_withContact]

theorem stat_storeMessage_dir (other : Path) :
    (storeMessage p username message tag files).tree.stat other = some .dir ↔
      (withContact p username files).tree.stat other = some .dir := by
  rw [storeMessage_eq reaches readable message]
  exact Disk.stat_write_dir ..

theorem contents_storeMessage_of_ne {other : Path} (apart : path ≠ other) :
    (storeMessage p username message tag files).tree.contents other = files.tree.contents other := by
  rw [← @contents_withContact p username files, storeMessage_eq reaches readable message, FileTree.contents,
    Disk.stat_write_of_ne _ _ apart]
  rfl

end Reached

theorem Storable.appended {username tag : String} {files : Files} (storable : Storable p username tag files)
    (newMessage : Json) : getContactMessages p username tag (storeMessage p username newMessage tag files) =
      getContactMessages p username tag files ++ [newMessage] := by
  obtain ⟨path, messages, _, before, after⟩ := storable.stored newMessage
  rw [readHistory_withContact] at before
  rw [getContactMessages, after, getContactMessages, before]

/-- The place of a message is free or holds a file, and the write succeeds. -/
def Writable (p : Platform) (username tag : String) (files : Files) : Prop :=
  ∃ path, Reaches p username (getMessageStoreFilename tag) (withContact p username files) path ∧ files.NextWritten path

def Readable (p : Platform) (username tag : String) (files : Files) : Prop :=
  ∃ messages, readHistory p username (getMessageStoreFilename tag) files = .ok messages

section Stored

variable {username tag : String} {files : Files}

theorem storable_of_readable (writable : Writable p username tag files) (readable : Readable p username tag files) :
    Storable p username tag files := by
  obtain ⟨messages, read⟩ := readable
  exact ⟨writable, messages, by rw [readHistory_withContact, read]⟩

theorem storeMessage_of_unreadable (unreadable : ¬ Readable p username tag files) (newMessage : Json) :
    storeMessage p username newMessage tag files = withContact p username files := by
  rw [storeMessage, ← withContact]
  cases read : readHistory p username (getMessageStoreFilename tag) (withContact p username files) with
  | error e => rfl
  | ok messages =>
    rw [readHistory_withContact] at read
    exact absurd ⟨messages, read⟩ unreadable

end Stored
end PillarSignal.Android.MessageStorage
