import PillarSignal.Storage.Log
import PillarSignal.Android.Client

namespace PillarSignal.Android

open Storage MessageStorage SignalClient

variable {p : Platform} {verify : Verify}

/-- A conversation is known by its contact and the file that its tag is kept in. -/
abbrev Conversation := String × HistoryFile

def conversation (username tag : String) : Conversation := (username, getMessageStoreFilename tag)

def Handled.events (handled : Handled) : List (LogEvent Conversation Json) :=
  handled.message.toList.map (.append (conversation handled.envelope.source handled.tag))

/-- What an operation means for the conversations: messages that were sent or received are added for the
    contact they went to or came from, and deletions empty what they cover. -/
def Operation.events (p : Platform) (files : Files) : Operation verify → List (LogEvent Conversation Json)
  | .init config draw =>
    match (RNSignalClientModule.init p config draw files).1, RNSignalClientModule.performSoftReset p files with
    | .registering _, .ok false => [.clear fun _ => true]
    | _, _ => []
  | .resetAccount => [.clear fun _ => true]
  | .deleteContact username => [.clear fun key => key.1 = username]
  | .deleteContactMessages username tag => [.clear fun key => key = conversation username tag]
  | .getContactMessages username messageTag decodeAndSave exchange draws =>
    (SignalClient.getContactMessages p username messageTag decodeAndSave exchange draws files).handled.flatMap Handled.events
  | .decryptSignalMessage messageTag receivedMessage draw =>
    (SignalClient.decryptSignalMessage p messageTag receivedMessage draw files).handled.flatMap Handled.events
  | .sendMessage out rounds =>
    (SignalClient.sendMessage p out rounds files).saved.toList.map fun saved =>
      .append (conversation out.username out.messageTag) saved.entry
  | .saveSentMessage tag username message timestamp =>
    [.append (conversation username tag) (sentEntry p message timestamp files)]
  | _ => []

def historyPath (p : Platform) (username : String) (file : HistoryFile) : Path := file.fileName :: username :: directory p

theorem contact_names {username : String} (single : Component username) :
    ∀ name ∈ ["messages", username], Component name := by
  simp [single, show Component "messages" by decide]

theorem readHistory_plain {username : String} (single : Component username) (file : HistoryFile) (files : Files) :
    readHistory p username file files = historyOf p ((files.tree.contents (historyPath p username file)).map joinLines) := by
  have names : ∀ name ∈ ["messages", username, file.fileName], Component name := by
    simp [single, file.component, show Component "messages" by decide]
  rw [readHistory_eq, MessageStorage.readFromStorage, fileNames, contactNames, single.components]
  exact congrArg (fun text => historyOf p (text.map joinLines)) (files.tree.readFile_eq names p.filesDir)

theorem historyPath_inj {username other : String} {file otherFile : HistoryFile} :
    historyPath p username file = historyPath p other otherFile ↔ username = other ∧ file = otherFile := by
  simp only [historyPath, List.cons.injEq, and_true, HistoryFile.fileName_injective.eq_iff]
  exact and_comm

/-- The message storage is in order: nothing stands in the way of a contact's files, and they hold lists. -/
structure Filed (p : Platform) (files : Files) : Prop where
  sound : files.Sound
  clear : files.tree.Clear (directory p)
  contact : ∀ username, Component username →
    files.tree.stat (username :: directory p) = none ∨ files.tree.stat (username :: directory p) = some .dir
  leaf : ∀ username file, Component username → files.tree.stat (historyPath p username file) ≠ some .dir
  readable : ∀ username file, Component username → ∃ messages, readHistory p username file files = .ok messages

theorem filed_of_no_directory {files : Files} (sound : files.Sound) (clear : files.tree.Clear (directory p))
    (absent : files.tree.stat (directory p) = none) : Filed p files := by
  have nothing : ∀ path, directory p <:+ path → files.tree.stat path = none := by
    intro path below
    cases held : files.tree.stat path with
    | none => rfl
    | some node =>
      have above := files.tree.stat_ancestor (by rw [held]; rfl) below
      rw [absent] at above
      cases above
  have history : ∀ username file, files.tree.stat (historyPath p username file) = none :=
    fun username file => nothing _ ⟨[file.fileName, username], rfl⟩
  refine ⟨sound, clear, fun username _ => .inl (nothing _ (List.suffix_cons ..)), ?_, ?_⟩
  · intro username file _
    simp [history]
  · intro username file single
    rw [readHistory_plain single, FileTree.contents, history]
    exact ⟨[], rfl⟩

theorem Filed.clear_contact {files : Files} (filed : Filed p files) {username : String} (single : Component username) :
    files.tree.Clear (username :: directory p) := by
  intro outer below
  rcases List.suffix_cons_iff.mp below with rfl | below
  · exact filed.contact username single
  · exact filed.clear outer below

structure Beside (p : Platform) (before after : Files) : Prop where
  sound : before.Sound → after.Sound
  clear : before.tree.Clear (directory p) → after.tree.Clear (directory p)
  stat : ∀ path, directory p <:+ path → after.tree.stat path = before.tree.stat path

theorem Beside.refl (files : Files) : Beside p files files := ⟨id, id, fun _ _ => rfl⟩

theorem Beside.of_framed {before after : Files} (framed : ProtocolStorage.Framed p before after) :
    Beside p before after where
  sound := framed.sound
  clear := by
    intro clear outer below
    rcases framed.stat outer with same | ⟨_, made, _⟩ | ⟨file, _, rfl, _⟩
    · rw [same]
      exact clear outer below
    · exact .inr made
    · have shorter := below.length_le
      simp [ProtocolStorage.StorageFile.path, ProtocolStorage.directory, directory] at shorter
  stat := by
    intro path below
    apply framed.stat_eq
    · exact fun above => directory_beside (below.trans above)
    · rintro file rfl
      exact protocol_beside file below

theorem below_history (username : String) (file : HistoryFile) : directory p <:+ historyPath p username file :=
  ⟨[file.fileName, username], rfl⟩

theorem Beside.readHistory_eq {before after : Files} (beside : Beside p before after) {username : String}
    (single : Component username) (file : HistoryFile) :
    readHistory p username file after = readHistory p username file before := by
  rw [readHistory_plain single, readHistory_plain single, FileTree.contents, FileTree.contents,
    beside.stat _ (below_history username file)]

theorem Filed.beside {before after : Files} (filed : Filed p before) (beside : Beside p before after) : Filed p after where
  sound := beside.sound filed.sound
  clear := beside.clear filed.clear
  contact username single := by
    rw [beside.stat _ (List.suffix_cons ..)]
    exact filed.contact username single
  leaf username file single := by
    rw [beside.stat _ (below_history ..)]
    exact filed.leaf username file single
  readable username file single := by
    rw [beside.readHistory_eq single]
    exact filed.readable username file single

theorem stat_withContact {files : Files} (filed : Filed p files) {username : String} (single : Component username)
    (path : Path) : (withContact p username files).tree.stat path =
      if path <:+ username :: directory p then some .dir else files.tree.stat path := by
  rw [withContact, contactNames, single.components]
  exact files.tree.stat_makeDirs (contact_names single) p.filesDir (filed.clear_contact single) path

theorem reaches_withContact {files : Files} (filed : Filed p files) {username : String} (single : Component username)
    (file : HistoryFile) :
    Reaches p username file (withContact p username files) (historyPath p username file) := by
  have parent : (withContact p username files).tree.stat (username :: directory p) = some .dir := by
    rw [stat_withContact filed single, if_pos List.suffix_rfl]
  have outside : ¬ historyPath p username file <:+ username :: directory p := FileTree.not_cons_suffix _ _
  have names : ∀ name ∈ ["messages", username] ++ [file.fileName], Component name := by
    simp [single, file.component, show Component "messages" by decide]
  refine ⟨?_, ?_⟩
  · rw [fileNames, contactNames, single.components]
    exact FileTree.resolve_of_dir _ names p.filesDir parent
  · rw [stat_withContact filed single, if_neg outside]
    exact filed.leaf username file single

theorem stat_storeMessage {files : Files} (filed : Filed p files) {username : String} (single : Component username)
    (newMessage : Json) (tag : String) : ∃ messages,
      readHistory p username (getMessageStoreFilename tag) files = .ok messages ∧
      ∀ path, (storeMessage p username newMessage tag files).tree.stat path =
        if historyPath p username (getMessageStoreFilename tag) = path then
          some (.file (p.json.print (.arr (messages ++ [newMessage]))))
        else if path <:+ username :: directory p then some .dir else files.tree.stat path := by
  obtain ⟨messages, held⟩ := filed.readable username (getMessageStoreFilename tag) single
  have reaches := reaches_withContact filed single (getMessageStoreFilename tag)
  have readable : readHistory p username (getMessageStoreFilename tag) (withContact p username files) = .ok messages := by
    rw [readHistory_withContact, held]
  have sound : (withContact p username files).Sound := filed.sound
  refine ⟨messages, held, fun path => ?_⟩
  have parent : (withContact p username files).tree.stat (username :: directory p) = some .dir := by
    rw [stat_withContact filed single, if_pos List.suffix_rfl]
  rw [storeMessage_eq reaches readable, (sound.next _).write_tree]
  unfold historyPath at reaches ⊢
  rw [FileTree.stat_write _ _ parent reaches.leaf, stat_withContact filed single]

theorem historyPath_not_suffix (username other : String) (file : HistoryFile) :
    ¬ historyPath p other file <:+ username :: directory p := by
  intro below
  have lengths := below.length_le
  simp [historyPath] at lengths

theorem readHistory_storeMessage {files : Files} (filed : Filed p files) {username other : String}
    (single : Component username) (plain : Component other) (newMessage : Json) (tag : String) (file : HistoryFile) :
    ∃ messages, readHistory p username (getMessageStoreFilename tag) files = .ok messages ∧
      readHistory p other file (storeMessage p username newMessage tag files) =
        if username = other ∧ getMessageStoreFilename tag = file then .ok (messages ++ [newMessage])
        else readHistory p other file files := by
  obtain ⟨messages, held, stat⟩ := stat_storeMessage filed single newMessage tag
  refine ⟨messages, held, ?_⟩
  rw [readHistory_plain plain, FileTree.contents, stat, if_neg (historyPath_not_suffix username other file)]
  simp only [historyPath_inj]
  split
  · exact historyOf_print _
  · rw [readHistory_plain plain, FileTree.contents]

theorem Filed.storeMessage {files : Files} (filed : Filed p files) {username : String} (single : Component username)
    (newMessage : Json) (tag : String) : Filed p (storeMessage p username newMessage tag files) := by
  obtain ⟨messages, held, stat⟩ := stat_storeMessage filed single newMessage tag
  constructor
  · exact sound_storeMessage filed.sound username newMessage tag
  · intro outer below
    rw [stat]
    split
    · rename_i same
      have lengths := below.length_le
      simp [← same, historyPath, directory] at lengths
    · rw [if_pos (below.trans (List.suffix_cons ..))]
      exact .inr rfl
  · intro other plain
    rw [stat]
    split
    · rename_i same
      have lengths := congrArg List.length same
      simp [historyPath] at lengths
    · split
      · exact .inr rfl
      · exact filed.contact other plain
  · intro other file plain
    rw [stat, if_neg (historyPath_not_suffix username other file)]
    split
    · simp
    · exact filed.leaf other file plain
  · intro other file plain
    obtain ⟨_, _, stored⟩ := readHistory_storeMessage filed single plain newMessage tag file
    rw [stored]
    split
    · exact ⟨_, rfl⟩
    · exact filed.readable other file plain

theorem getContactMessages_storeMessage {files : Files} (filed : Filed p files) {username other : String}
    (single : Component username) (plain : Component other) (newMessage : Json) (tag otherTag : String) :
    MessageStorage.getContactMessages p other otherTag (storeMessage p username newMessage tag files) =
      (LogEvent.append (conversation username tag) newMessage).onto (conversation other otherTag)
        (MessageStorage.getContactMessages p other otherTag files) := by
  obtain ⟨messages, held, stored⟩ :=
    readHistory_storeMessage filed single plain newMessage tag (getMessageStoreFilename otherTag)
  rw [MessageStorage.getContactMessages, stored, LogEvent.onto, conversation, conversation,
    MessageStorage.getContactMessages]
  by_cases same : username = other ∧ getMessageStoreFilename tag = getMessageStoreFilename otherTag
  · obtain ⟨rfl, file⟩ := same
    rw [← file, held]
    simp
  · simp [same]

theorem Filed.deleteBelow {files : Files} (filed : Filed p files) {names : List String}
    (single : ∀ name ∈ names, Component name) : Filed p (deleteBelow p names files) ∧
      ∀ username file, Component username → readHistory p username file (MessageStorage.deleteBelow p names files) =
        if names.reverse ++ directory p <:+ historyPath p username file then .ok [] else readHistory p username file files := by
  have stat := @stat_deleteBelow p names single files
  have gone : ∀ {path : Path} {node : Node (List Char)}, (MessageStorage.deleteBelow p names files).tree.stat path = some node →
      files.tree.stat path = some node := by
    intro path node held
    rw [stat] at held
    split at held
    · cases held
    · exact held
  have histories : ∀ username file, Component username →
      readHistory p username file (MessageStorage.deleteBelow p names files) =
        if names.reverse ++ directory p <:+ historyPath p username file then .ok [] else readHistory p username file files := by
    intro username file plain
    rw [readHistory_plain plain, FileTree.contents, stat]
    split
    · rfl
    · rw [readHistory_plain plain, FileTree.contents]
  refine ⟨⟨filed.sound, ?_, ?_, ?_, ?_⟩, histories⟩
  · intro outer below
    rw [stat]
    split
    · exact .inl rfl
    · exact filed.clear outer below
  · intro username plain
    rw [stat]
    split
    · exact .inl rfl
    · exact filed.contact username plain
  · intro username file plain dir
    exact filed.leaf username file plain (gone dir)
  · intro username file plain
    rw [histories username file plain]
    split
    · exact ⟨[], rfl⟩
    · exact filed.readable username file plain

def Logs (p : Platform) (before : Files) (events : List (LogEvent Conversation Json)) (after : Files) : Prop :=
  Filed p after ∧ ∀ username tag, Component username → MessageStorage.getContactMessages p username tag after =
    events.foldl (LogEvent.onto (conversation username tag)) (MessageStorage.getContactMessages p username tag before)

theorem Logs.trans {a b c : Files} {first second : List (LogEvent Conversation Json)} (left : Logs p a first b)
    (right : Logs p b second c) : Logs p a (first ++ second) c := by
  refine ⟨right.1, fun username tag single => ?_⟩
  rw [right.2 username tag single, left.2 username tag single, List.foldl_append]

theorem Beside.logs {before after : Files} (beside : Beside p before after) (filed : Filed p before) :
    Logs p before [] after := by
  refine ⟨filed.beside beside, fun username tag single => ?_⟩
  rw [MessageStorage.getContactMessages, beside.readHistory_eq single]
  rfl

theorem logs_storeMessage {files : Files} (filed : Filed p files) {username : String} (single : Component username)
    (newMessage : Json) (tag : String) :
    Logs p files [.append (conversation username tag) newMessage] (storeMessage p username newMessage tag files) :=
  ⟨filed.storeMessage single newMessage tag, fun _ otherTag plain =>
    getContactMessages_storeMessage filed single plain newMessage tag otherTag⟩

theorem logs_deleteBelow {files : Files} (filed : Filed p files) {names : List String}
    (single : ∀ name ∈ names, Component name) {covers : Conversation → Bool}
    (covered : ∀ username file, Component username →
      (names.reverse ++ directory p <:+ historyPath p username file ↔ covers (username, file) = true)) :
    Logs p files [.clear covers] (deleteBelow p names files) := by
  obtain ⟨still, histories⟩ := filed.deleteBelow single
  refine ⟨still, fun username tag plain => ?_⟩
  rw [MessageStorage.getContactMessages, histories username _ plain, List.foldl_cons, List.foldl_nil, LogEvent.onto,
    conversation]
  by_cases reached : names.reverse ++ directory p <:+ historyPath p username (getMessageStoreFilename tag)
  · rw [if_pos reached, if_pos ((covered username _ plain).mp reached)]
  · rw [if_neg reached, if_neg (fun hit => reached ((covered username _ plain).mpr hit))]
    rfl

theorem logs_deleteAllContactMessages {files : Files} (filed : Filed p files) {username : String}
    (single : Component username) :
    Logs p files [.clear fun key => key.1 = username] (deleteAllContactMessages p username files) := by
  rw [deleteAllContactMessages_eq single]
  apply logs_deleteBelow filed (by simpa using single)
  intro other file _
  rw [List.reverse_singleton, List.singleton_append, decide_eq_true_iff]
  constructor
  · intro below
    rcases List.suffix_cons_iff.mp below with same | below
    · have lengths := congrArg List.length same
      simp at lengths
    · rcases List.suffix_cons_iff.mp below with same | below
      · exact (List.cons.inj same).1.symm
      · exact absurd below (FileTree.not_cons_suffix _ _)
  · rintro rfl
    exact List.suffix_cons ..

theorem logs_deleteContactMessages {files : Files} (filed : Filed p files) {username : String}
    (single : Component username) (tag : String) :
    Logs p files [.clear fun key => key = conversation username tag] (deleteContactMessages p username tag files) := by
  rw [deleteContactMessages_eq single]
  apply logs_deleteBelow filed (by simp [single, HistoryFile.component])
  intro other file _
  have shape : [username, (getMessageStoreFilename tag).fileName].reverse ++ directory p =
      historyPath p username (getMessageStoreFilename tag) := rfl
  rw [shape, decide_eq_true_iff, conversation, Prod.mk.injEq]
  constructor
  · intro below
    obtain ⟨name, same⟩ := historyPath_inj.mp (below.eq_of_length rfl)
    exact ⟨name.symm, same.symm⟩
  · rintro ⟨rfl, rfl⟩
    exact List.suffix_rfl

theorem Delivers.logs {before after : Files} {handled : List Handled} (delivers : Delivers p before handled after)
    (filed : Filed p before) (named : ∀ one ∈ handled, Component one.envelope.source) :
    Logs p before (handled.flatMap Handled.events) after := by
  induction delivers with
  | done upkeep => exact (Beside.of_framed upkeep.framed).logs filed
  | @next before after one later upkeep _ _ ih =>
    have decrypted := (Beside.of_framed upkeep.framed).logs filed
    have stored : Logs p before one.events (one.after p) := by
      unfold Handled.after Handled.events
      cases one.message with
      | none => exact decrypted
      | some message => exact decrypted.trans (logs_storeMessage decrypted.1 (named one (by simp)) ..)
    exact stored.trans (ih stored.1 fun other member => named other (by simp [member]))

section Sample

def bobRun : List (Operation everySignature) :=
  [.sendMessage ⟨"bob", "hi", none, none, "chat", false⟩
    [⟨.answered ⟨200, none⟩, .ciphertext [1] 2 [], .answered ⟨204, none⟩, .dropped, fun _ => .ok []⟩],
   .saveSentMessage "tx-note" "bob" "note" 9, .deleteContactMessages "bob" "chat", .saveSentMessage "chat" "bob" "again" 10]

theorem noFiles_filed : Filed .plain noFiles := by
  refine filed_of_no_directory (fun _ _ member => by cases member) ?_ (by decide)
  intro outer below
  rcases List.suffix_cons_iff.mp below with rfl | below
  · exact .inl (by decide)
  · rw [List.suffix_nil.mp below]
    exact .inr (by decide)

end Sample
end PillarSignal.Android
