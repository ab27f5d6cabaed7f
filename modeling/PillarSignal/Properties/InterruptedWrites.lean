import PillarSignal.Properties.DisturbedStores

namespace PillarSignal.Android.MessageStorage

open Storage ProtocolStorage

variable {p : Platform} {username tag : String} {message : Json} {files before after : Files} {path : Path}
  {existing : List Json}

/-- Nothing is lost: the history is the old one or has the message at its end, no other message is gone, and the
    protocol's stores answer as before. -/
structure MessageKept (p : Platform) (username : String) (message : Json) (tag : String) (files : Files) : Prop where
  history : getContactMessages p username tag (storeMessage p username message tag files) =
      getContactMessages p username tag files ∨
    getContactMessages p username tag (storeMessage p username message tag files) =
      getContactMessages p username tag files ++ [message]
  messages : ∀ other label, getContactMessages p other label files <+:
    getContactMessages p other label (storeMessage p username message tag files)
  loads : ∀ load : Load, load.answer p (storeMessage p username message tag files) = load.answer p files

/-- Making the directory of all messages, once the contact's own has been made, brings nothing new within reach.
    Only a name that leads out of that directory could see a difference. -/
def Inside (p : Platform) (username : String) (file : HistoryFile) (files : Files) : Prop :=
  ∀ path, ((withContact p username files).tree.makeDirs p.filesDir ["messages"]).resolve p.filesDir
      (fileNames username file) = some path →
    (withContact p username files).tree.resolve p.filesDir (fileNames username file) = some path

/-- The write is complete or never begins, unless there was nothing to lose. -/
def MessageSafe (p : Platform) (username : String) (message : Json) (tag : String) (files : Files) : Prop :=
  ∀ path existing, Reaches p username (getMessageStoreFilename tag) (withContact p username files) path →
    readHistory p username (getMessageStoreFilename tag) (withContact p username files) = .ok existing →
    existing = [] ∨ Complete (p.json.print (.arr (existing ++ [message]))) (files.outcomes path).head?

theorem getContactMessages_grows (dirs : ∀ path, before.tree.stat path = some .dir → after.tree.stat path = some .dir)
    (texts : ∀ path text, before.tree.contents path = some text →
      messagesIn p (some text) <+: messagesIn p (after.tree.contents path)) (username tag : String) :
    getContactMessages p username tag before <+: getContactMessages p username tag after := by
  rw [getContactMessages_eq_messagesIn, getContactMessages_eq_messagesIn, FileTree.readFile, FileTree.readFile]
  cases found : before.tree.resolve p.filesDir (fileNames username (getMessageStoreFilename tag)) with
  | none => exact List.nil_prefix
  | some path =>
    rw [FileTree.resolve_mono dirs found, Option.bind_some, Option.bind_some]
    cases held : before.tree.contents path with
    | none => exact List.nil_prefix
    | some text => exact texts path text held

theorem messagesIn_left (rejects : Rejects p (p.json.print (.arr (existing ++ [message])))) {old : Option (List Char)}
    (held : messagesIn p old = existing) (outcome : Option WriteOutcome) :
    (Complete (p.json.print (.arr (existing ++ [message]))) outcome ∧
        messagesIn p ((Disk.left (p.json.print (.arr (existing ++ [message]))) outcome).or old) = existing ++ [message]) ∨
      (Complete (p.json.print (.arr (existing ++ [message]))) outcome ∧
        messagesIn p ((Disk.left (p.json.print (.arr (existing ++ [message]))) outcome).or old) = existing) ∨
      (¬ Complete (p.json.print (.arr (existing ++ [message]))) outcome ∧
        messagesIn p ((Disk.left (p.json.print (.arr (existing ++ [message]))) outcome).or old) = []) := by
  have whole : messagesIn p (some (p.json.print (.arr (existing ++ [message])))) = existing ++ [message] :=
    messagesIn_print _
  rcases outcome with _ | outcome
  · exact .inl ⟨fun after => by simp, whole⟩
  cases outcome with
  | written => exact .inl ⟨fun after => by simp, whole⟩
  | notOpened => exact .inr (.inl ⟨fun after => by simp, held⟩)
  | stopped after =>
    by_cases enough : (p.json.print (.arr (existing ++ [message]))).length ≤ after
    · refine .inl ⟨fun other same => ?_, ?_⟩
      · cases same
        exact enough
      · rw [Disk.left, List.take_of_length_le enough]
        exact whole
    · refine .inr (.inr ⟨fun complete => enough (complete after rfl), ?_⟩)
      have kept : joinLines ((p.json.print (.arr (existing ++ [message]))).take after) =
          (p.json.print (.arr (existing ++ [message]))).take after :=
        joinLines_of_unbroken fun c member => p.json.print_unbroken _ c (List.mem_of_mem_take member)
      rw [Disk.left, Option.some_or, messagesIn, Option.map_some, kept]
      cases front : (p.json.print (.arr (existing ++ [message]))).take after with
      | nil => rfl
      | cons c rest =>
        have begun : 0 < after := by
          rcases Nat.eq_zero_or_pos after with zero | positive
          · rw [zero] at front
            cases front
          · exact positive
        rw [historyOf, ← front, OrgJson.newJSONArray, rejects after begun (by omega)]
        simp

theorem loads_storeMessage (load : Load) (files : Files) :
    load.answer p (storeMessage p username message tag files) = load.answer p files := by
  rw [Load.answer_eq, Load.answer_eq, readObject_storeMessage]

theorem MessageKept.of_unwritten (dirs : ∀ path, files.tree.stat path = some .dir →
      (storeMessage p username message tag files).tree.stat path = some .dir)
    (same : ∀ path, (storeMessage p username message tag files).tree.contents path = files.tree.contents path)
    (history : getContactMessages p username tag (storeMessage p username message tag files) =
      getContactMessages p username tag files) : MessageKept p username message tag files where
  history := .inl history
  messages := getContactMessages_grows dirs fun path text held => by rw [same, held]
  loads load := loads_storeMessage load files

theorem storeMessage_of_read
    (read : readHistory p username (getMessageStoreFilename tag) (withContact p username files) = .ok existing) :
    storeMessage p username message tag files =
      writeToStorageFile p username (getMessageStoreFilename tag) (p.json.print (.arr (existing ++ [message])))
        (withContact p username files) := by
  rw [storeMessage, ← withContact]
  simp only [read]

theorem messageKept_of_unreadable {e : Thrown}
    (read : readHistory p username (getMessageStoreFilename tag) (withContact p username files) = .error e) :
    MessageKept p username message tag files := by
  have stays : storeMessage p username message tag files = withContact p username files := by
    rw [storeMessage, ← withContact]
    simp only [read]
  apply MessageKept.of_unwritten
  · intro path dir
    rw [stays]
    exact FileTree.makeDirs_dir dir
  · intro path
    rw [stays, contents_withContact]
  · rw [stays, getContactMessages_withContact]

theorem messageKept_of_nowhere
    (read : readHistory p username (getMessageStoreFilename tag) (withContact p username files) = .ok existing)
    (found : ((withContact p username files).tree.makeDirs p.filesDir ["messages"]).resolve p.filesDir
      (fileNames username (getMessageStoreFilename tag)) = none) : MessageKept p username message tag files := by
  have nowhere : storeMessage p username message tag files = { withContact p username files with
      tree := (withContact p username files).tree.makeDirs p.filesDir ["messages"] } := by
    rw [storeMessage_of_read read, writeToStorageFile]
    simp only [found]
  have absent : (withContact p username files).tree.resolve p.filesDir
      (fileNames username (getMessageStoreFilename tag)) = none := by
    cases reached : (withContact p username files).tree.resolve p.filesDir
        (fileNames username (getMessageStoreFilename tag)) with
    | none => rfl
    | some path =>
      rw [FileTree.resolve_mono (fun other dir => FileTree.makeDirs_dir dir) reached] at found
      cases found
  apply MessageKept.of_unwritten
  · intro path dir
    rw [nowhere]
    exact FileTree.makeDirs_dir (FileTree.makeDirs_dir dir)
  · intro path
    rw [nowhere, ← contents_withContact username files]
    exact (withContact p username files).tree.contents_makeDirs ..
  · rw [← getContactMessages_withContact username tag files, getContactMessages_eq_messagesIn,
      getContactMessages_eq_messagesIn, FileTree.readFile, FileTree.readFile, absent, nowhere]
    dsimp only
    rw [found, Option.bind_none, Option.bind_none]

theorem messageKept_of_directory
    (read : readHistory p username (getMessageStoreFilename tag) (withContact p username files) = .ok existing)
    (reached : (withContact p username files).tree.resolve p.filesDir
      (fileNames username (getMessageStoreFilename tag)) = some path)
    (dir : (withContact p username files).tree.stat path = some .dir) : MessageKept p username message tag files := by
  have opened : (withContact p username files).tree.makeDirs p.filesDir ["messages"] =
      (withContact p username files).tree := FileTree.makeDirs_of_resolve (by exact reached) (by simp)
  have wrote : storeMessage p username message tag files =
      (withContact p username files).write path (p.json.print (.arr (existing ++ [message]))) := by
    rw [storeMessage_of_read read, writeToStorageFile]
    simp only [opened, reached]
  have dirs : ∀ other, (storeMessage p username message tag files).tree.stat other = some .dir ↔
      (withContact p username files).tree.stat other = some .dir := by
    intro other
    rw [wrote]
    exact Disk.stat_write_dir ..
  have same : ∀ other, (storeMessage p username message tag files).tree.contents other =
      (withContact p username files).tree.contents other := by
    intro other
    by_cases place : path = other
    · subst place
      rw [FileTree.contents, FileTree.contents, (dirs path).mpr dir, dir]
    · rw [wrote, FileTree.contents, Disk.stat_write_of_ne _ _ place]
      rfl
  apply MessageKept.of_unwritten
  · intro other held
    exact (dirs other).mpr (FileTree.makeDirs_dir held)
  · intro other
    rw [same, contents_withContact]
  · rw [← getContactMessages_withContact username tag files, getContactMessages_eq_messagesIn,
      getContactMessages_eq_messagesIn, FileTree.readFile, FileTree.readFile, FileTree.resolve_congr dirs, reached,
      Option.bind_some, Option.bind_some, same]

theorem messageKept_of_unreached (inside : Inside p username (getMessageStoreFilename tag) files)
    (unreached : ∀ path existing, Reaches p username (getMessageStoreFilename tag) (withContact p username files) path →
      readHistory p username (getMessageStoreFilename tag) (withContact p username files) ≠ .ok existing) :
    MessageKept p username message tag files := by
  cases read : readHistory p username (getMessageStoreFilename tag) (withContact p username files) with
  | error e => exact messageKept_of_unreadable read
  | ok existing =>
    cases found : ((withContact p username files).tree.makeDirs p.filesDir ["messages"]).resolve p.filesDir
        (fileNames username (getMessageStoreFilename tag)) with
    | none => exact messageKept_of_nowhere read found
    | some path =>
      have reached := inside path found
      have dir : (withContact p username files).tree.stat path = some .dir := by
        by_contra leaf
        exact unreached path existing ⟨reached, leaf⟩ read
      exact messageKept_of_directory read reached dir

theorem contents_storeMessage_self
    (reaches : Reaches p username (getMessageStoreFilename tag) (withContact p username files) path)
    (readable : readHistory p username (getMessageStoreFilename tag) (withContact p username files) = .ok existing) :
    (storeMessage p username message tag files).tree.contents path =
      (Disk.left (p.json.print (.arr (existing ++ [message]))) (files.outcomes path).head?).or (files.tree.contents path) := by
  obtain ⟨contact, rfl, parent⟩ := reaches.parent
  rw [storeMessage_eq reaches readable message, ← @contents_withContact p username files]
  exact Disk.contents_write _ _ parent reaches.leaf

theorem histories_grow_of_reached
    (reaches : Reaches p username (getMessageStoreFilename tag) (withContact p username files) path)
    (readable : readHistory p username (getMessageStoreFilename tag) (withContact p username files) = .ok existing)
    (kept : existing <+: messagesIn p ((storeMessage p username message tag files).tree.contents path))
    (other label : String) :
    getContactMessages p other label files <+:
      getContactMessages p other label (storeMessage p username message tag files) := by
  apply getContactMessages_grows
  · intro place dir
    exact (stat_storeMessage_dir reaches readable place).mpr (FileTree.makeDirs_dir dir)
  · intro place text found
    by_cases same : path = place
    · subst same
      rw [← found, messagesIn_of_reached reaches readable]
      exact kept
    · rw [contents_storeMessage_of_ne reaches readable same, found]

theorem messageKept_iff_of_reached
    (reaches : Reaches p username (getMessageStoreFilename tag) (withContact p username files) path)
    (readable : readHistory p username (getMessageStoreFilename tag) (withContact p username files) = .ok existing)
    (rejects : Rejects p (p.json.print (.arr (existing ++ [message])))) :
    MessageKept p username message tag files ↔
      existing = [] ∨ Complete (p.json.print (.arr (existing ++ [message]))) (files.outcomes path).head? := by
  have earlier : getContactMessages p username tag files = existing := by
    rw [← getContactMessages_withContact, getContactMessages, readable]
  have later : getContactMessages p username tag (storeMessage p username message tag files) =
      messagesIn p ((storeMessage p username message tag files).tree.contents path) := by
    rw [getContactMessages_eq_messagesIn, FileTree.readFile,
      FileTree.resolve_congr (stat_storeMessage_dir reaches readable), reaches.found, Option.bind_some]
  have grows := @histories_grow_of_reached p username tag message files path existing reaches readable
  have loads := fun load => @loads_storeMessage p username tag message load files
  rw [contents_storeMessage_self reaches readable] at later grows
  rcases messagesIn_left rejects (messagesIn_of_reached reaches readable) (files.outcomes path).head? with
    ⟨complete, read⟩ | ⟨complete, read⟩ | ⟨cut, read⟩
  · rw [read] at later grows
    exact iff_of_true ⟨.inr (by rw [later, earlier]), grows (List.prefix_append ..), loads⟩ (.inr complete)
  · rw [read] at later grows
    exact iff_of_true ⟨.inl (by rw [later, earlier]), grows List.prefix_rfl, loads⟩ (.inr complete)
  · rw [read] at later grows
    constructor
    · rintro ⟨history, _, _⟩
      rw [later, earlier] at history
      rcases history with same | same
      · exact .inl same.symm
      · simp at same
    · rintro (empty | complete)
      · exact ⟨.inl (by rw [later, earlier, empty]), grows (by rw [empty]), loads⟩
      · exact absurd complete cut

/-- A name that is a single component of a path does not lead out of the directory. -/
theorem inside_of_component (single : Component username) (file : HistoryFile) (files : Files) :
    Inside p username file files := by
  intro path found
  have parts : ∀ name ∈ contactNames username, Component name := by
    rw [contactNames, single.components]
    intro name member
    rcases List.mem_pair.mp member with rfl | rfl
    · decide
    · exact single
  obtain ⟨contact, reached, parent, rfl⟩ := FileTree.resolve_last file.component found
  have place := FileTree.resolve_plain parts reached
  subst place
  have lower : ¬ (contactNames username).reverse ++ p.filesDir <:+ ["messages"].reverse ++ p.filesDir := by
    intro suffix
    have shorter := suffix.length_le
    rw [contactNames, single.components] at shorter
    simp at shorter
  have made : (withContact p username files).tree.stat ((contactNames username).reverse ++ p.filesDir) = some .dir := by
    rw [← parent]
    unfold FileTree.makeDirs
    split
    · rfl
    · rw [FileTree.foldl_walk (by decide), FileTree.stat_mkdirs_of_not_suffix _ lower]
  apply FileTree.resolve_of_dir _ _ _ made
  intro name member
  rcases List.mem_append.mp member with member | member
  · exact parts name member
  · cases List.mem_singleton.mp member
    exact file.component

theorem messageKept_iff_safe (inside : Inside p username (getMessageStoreFilename tag) files)
    (rejects : ∀ messages, readHistory p username (getMessageStoreFilename tag) files = .ok messages →
      Rejects p (p.json.print (.arr (messages ++ [message])))) :
    MessageKept p username message tag files ↔ MessageSafe p username message tag files := by
  by_cases reached : ∃ path existing,
      Reaches p username (getMessageStoreFilename tag) (withContact p username files) path ∧
        readHistory p username (getMessageStoreFilename tag) (withContact p username files) = .ok existing
  · obtain ⟨path, existing, reaches, readable⟩ := reached
    have iff := messageKept_iff_of_reached reaches readable (rejects existing (by rw [← readable, readHistory_withContact]))
    rw [iff]
    constructor
    · intro safe other messages elsewhere read
      cases Option.some.inj (elsewhere.found.symm.trans reaches.found)
      cases Except.ok.inj (read.symm.trans readable)
      exact safe
    · intro safe
      exact safe path existing reaches readable
  · have unreached : ∀ path existing,
        Reaches p username (getMessageStoreFilename tag) (withContact p username files) path →
          readHistory p username (getMessageStoreFilename tag) (withContact p username files) ≠ .ok existing :=
      fun path existing reaches readable => reached ⟨path, existing, reaches, readable⟩
    exact iff_of_true (messageKept_of_unreached inside unreached) fun path existing reaches readable =>
      absurd readable (unreached path existing reaches)

end PillarSignal.Android.MessageStorage

namespace PillarSignal.Android

open Storage ProtocolStorage MessageStorage

theorem interrupted_writes_lose_nothing_iff (p : Platform) (files : Files) :
    (∀ mutation : Mutation, (∀ text ∈ mutation.texts p files, Rejects p text) →
      (MutationKept p mutation files ↔ Safe p mutation files)) ∧
    ∀ (username : String) (message : Json) (tag : String),
      Inside p username (getMessageStoreFilename tag) files →
      (∀ messages, readHistory p username (getMessageStoreFilename tag) files = .ok messages →
        Rejects p (p.json.print (.arr (messages ++ [message])))) →
      (MessageKept p username message tag files ↔ MessageSafe p username message tag files) :=
  ⟨fun mutation rejects => kept_iff_safe mutation files rejects,
    fun _ _ _ inside rejects => messageKept_iff_safe inside rejects⟩

def stoppingAt (after : Nat) (files : Files) : Files := { files with outcomes := fun _ => [.stopped after] }

def bobStored : Files := storeMessage .plain "bob" (.str "hello") "chat" (storeSession .plain ⟨"bob", 1⟩ ⟨[1]⟩ noFiles)

theorem bobStored_reads :
    loadSession .plain ⟨"bob", 1⟩ bobStored = some ⟨[1]⟩ ∧ getContactMessages .plain "bob" "chat" bobStored = [.str "hello"] ∧
      readObject .plain .LOCAL_JSON_FILENAME bobStored = .ok [] ∧
      readHistory .plain "carol" .messages bobStored = .ok [] := by
  decide +kernel

/-- The fields of the account and carol's history were empty, so that nothing is lost when their writes are cut; bob's
    own session is replaced by two writes, of which only the first is cut. -/
theorem cut_writes_lose_nothing :
    let cut := stoppingAt 5 bobStored
    let again := { bobStored with outcomes := fun _ => [.stopped 1] }
    (MutationKept .plain (.storeSignalingKey "key") cut ∧ getSignalingKey .plain (storeSignalingKey .plain "key" cut) = none) ∧
      (MessageKept .plain "carol" (.str "hello") "chat" cut ∧
        getContactMessages .plain "carol" "chat" (storeMessage .plain "carol" (.str "hello") "chat" cut) = []) ∧
      MutationKept .plain (.storeSession ⟨"bob", 1⟩ ⟨[2]⟩) again := by
  obtain ⟨_, _, local_empty, history_empty⟩ := bobStored_reads
  obtain ⟨stores, histories⟩ := interrupted_writes_lose_nothing_iff .plain (stoppingAt 5 bobStored)
  refine ⟨⟨?_, by decide +kernel⟩, ⟨?_, by decide +kernel⟩, ?_⟩
  · apply (stores (.storeSignalingKey "key") (by decide +kernel)).mpr
    intro _ text _
    have empty : ∀ load : Load, load.file = .LOCAL_JSON_FILENAME →
        load.answer .plain (stoppingAt 5 bobStored) = load.answer .plain noFiles := by
      intro load own
      rw [Load.answer_eq, Load.answer_noFiles, own]
      exact congrArg (load.value .plain) local_empty
    refine .inr ⟨⟨fun load own _ => empty load own, .inl fun load hit => empty load hit.1⟩, ?_⟩
    intro identities
    cases identities
  · have rejects : Rejects .plain (Platform.plain.json.print (.arr [.str "hello"])) := by decide +kernel
    apply (histories "carol" (.str "hello") "chat" (inside_of_component (by decide) _ _) ?_).mpr
    · intro path existing _ read
      rw [readHistory_withContact] at read
      cases history_empty.symm.trans read
      exact .inl rfl
    · intro messages read
      cases history_empty.symm.trans read
      exact rejects
  · apply ((interrupted_writes_lose_nothing_iff .plain { bobStored with outcomes := fun _ => [.stopped 1] }).1
      (.storeSession ⟨"bob", 1⟩ ⟨[2]⟩) (by decide +kernel)).mpr
    intro _ text _
    have replaced : (Mutation.storeSession ⟨"bob", 1⟩ ⟨[2]⟩).replaces .plain
        { bobStored with outcomes := fun _ => [.stopped 1] } = true := by decide +kernel
    rw [replaced, if_pos rfl]
    apply Or.inl
    constructor
    · intro after same
      cases same
    · simp

/-- A write that is stopped at once takes every other session along, and one that is stopped later a whole history. -/
theorem interrupted_writes_lose_everything :
    let sessions := storeSession .plain ⟨"carol", 1⟩ ⟨[2]⟩ (stoppingAt 0 bobStored)
    let messages := storeMessage .plain "bob" (.str "again") "chat" (stoppingAt 5 bobStored)
    loadSession .plain ⟨"bob", 1⟩ bobStored = some ⟨[1]⟩ ∧ loadSession .plain ⟨"bob", 1⟩ sessions = none ∧
      getContactMessages .plain "bob" "chat" bobStored = [.str "hello"] ∧
      getContactMessages .plain "bob" "chat" messages = [] := by
  decide +kernel

end PillarSignal.Android
