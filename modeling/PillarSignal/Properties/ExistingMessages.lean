import PillarSignal.Properties.AndroidConversation
import PillarSignal.Properties.IosConversation
import PillarSignal.Properties.TagIsolation

namespace PillarSignal

open Storage

namespace MessageOperation

def username : MessageOperation → String
  | storeMessage username _ _ | deleteContactMessages username _ | deleteAllContactMessages username => username

def events : MessageOperation → List (LogEvent (String × String) Ios.Dictionary)
  | storeMessage username message tag => [.append (username, tag) message]
  | deleteContactMessages username tag => [.clear fun key => key = (username, tag)]
  | deleteAllContactMessages username => [.clear fun key => key.1 = username]

/-- What an operation means for a contact, under whatever tag: its directory outlives the histories in it. -/
def contactEvents : MessageOperation → List (LogEvent String Ios.Dictionary)
  | storeMessage username message _ => [.append username message]
  | deleteContactMessages _ _ => []
  | deleteAllContactMessages username => [.clear fun key => key = username]

def history (operations : List MessageOperation) (username tag : String) : List Ios.Dictionary :=
  logOf (operations.flatMap events) (username, tag)

def everStored (operations : List MessageOperation) (username : String) : List Ios.Dictionary :=
  logOf (operations.flatMap contactEvents) username

theorem history_snoc (done : List MessageOperation) (operation : MessageOperation) (username tag : String) :
    history (done ++ [operation]) username tag =
      operation.events.foldl (LogEvent.onto (username, tag)) (history done username tag) := by
  rw [history, List.flatMap_append, List.flatMap_singleton, logOf_append, history]

theorem everStored_snoc (done : List MessageOperation) (operation : MessageOperation) (username : String) :
    everStored (done ++ [operation]) username =
      operation.contactEvents.foldl (LogEvent.onto username) (everStored done username) := by
  rw [everStored, List.flatMap_append, List.flatMap_singleton, logOf_append, everStored]

end MessageOperation

/-- What a reader of one entry of the existing messages sees. -/
structure ExistingMessages where
  username : Option Json
  lastMessage : Option Json
  messages : Option Json
  unread : Option Json
deriving DecidableEq

def ExistingMessages.read (fields : List (String × Json)) : ExistingMessages where
  username := fields.lookup "username"
  lastMessage := fields.lookup "lastMessage"
  messages := fields.lookup "messages"
  unread := fields.lookup "unread"

def existingAndroid (p : Android.Platform) (tag : String) (files : Android.Files) : List ExistingMessages :=
  (Android.MessageStorage.getExistingMessages p tag files).map .read

def existingIos (tag : String) (archives : Ios.Archives) : List ExistingMessages :=
  (Ios.SignalClient.getAllContactMessages tag archives).map .read

/-- Both platforms list the same entries, with the last message or all messages of the history. -/
structure Reported (p : Android.Platform) (operations : List MessageOperation) (tag : String) (files : Android.Files)
    (archives : Ios.Archives) : Prop where
  same : (existingAndroid p tag files).Perm (existingIos tag archives)
  described : ∀ entry ∈ existingAndroid p tag files, ∀ name, entry.username = some (.str name) →
    if tag = "chat" then
      entry.lastMessage = (MessageOperation.history operations name tag).getLast?.map .obj
    else entry.messages = some (.arr ((MessageOperation.history operations name tag).map .obj))

structure NoMessages (p : Android.Platform) (files : Android.Files) (archives : Ios.Archives) : Prop where
  sound : files.Sound
  clear : files.tree.Clear (Android.MessageStorage.directory p)
  absent : files.tree.stat (Android.MessageStorage.directory p) = none
  empty : ∀ tag, archives (Ios.MessagesStorage.getMessageStorageFilename tag) = none

open MessageOperation

/-- What the stores hold after a run on single path components. -/
structure AndroidShelf (p : Android.Platform) (operations : List MessageOperation) (files : Android.Files) : Prop where
  filed : Android.Filed p files
  listed : ∀ name, name ∈ files.tree.children (Android.MessageStorage.directory p) ↔ everStored operations name ≠ []
  named : ∀ name, everStored operations name ≠ [] → Component name
  chat : ∀ name, Component name → Android.MessageStorage.getContactMessages p name "chat" files =
    (history operations name "chat").map .obj

structure IosShelf (operations : List MessageOperation) (archives : Ios.Archives) : Prop where
  chat : ∀ name, Ios.MessagesStorage.getMessages name "chat" archives =
    (history operations name "chat").map Ios.ParsedMessageDTO.mk
  listed : ∀ name, ((Ios.MessagesStorage.getAllMessages "chat" archives).lookup name).isSome ↔
    history operations name "chat" ≠ []
  within : ∀ tag name, ((Ios.MessagesStorage.getAllMessages tag archives).lookup name).isSome →
    everStored operations name ≠ []
  wrapped : ∀ tag name value, (Ios.MessagesStorage.getAllMessages tag archives).lookup name = some value →
    ∃ userData, value = .obj userData

section Android

open Android Android.MessageStorage

variable {p : Platform} {operations : List MessageOperation} {files : Files}

theorem chat_file (tag : String) : getMessageStoreFilename tag = getMessageStoreFilename "chat" ↔ tag = "chat" := by
  constructor
  · intro same
    by_contra other
    rw [getMessageStoreFilename, if_neg other] at same
    split at same <;> cases same
  · rintro rfl
    rfl

theorem children_storeMessage (filed : Filed p files) {username : String} (single : Component username)
    (newMessage : Json) (tag name : String) :
    name ∈ (storeMessage p username newMessage tag files).tree.children (directory p) ↔
      name = username ∨ name ∈ files.tree.children (directory p) := by
  obtain ⟨messages, _, stat⟩ := stat_storeMessage filed single newMessage tag
  have beside : historyPath p username (getMessageStoreFilename tag) ≠ name :: directory p := by
    intro same
    have lengths := congrArg List.length same
    simp [historyPath] at lengths
  rw [FileTree.mem_children, FileTree.mem_children, stat, if_neg beside]
  by_cases own : name = username
  · simp [own]
  · have apart : ¬ name :: directory p <:+ username :: directory p := by
      intro below
      exact own (List.cons.inj (below.eq_of_length rfl)).1
    simp [apart, own]

theorem children_deleteBelow {names : List String} (single : ∀ name ∈ names, Component name) (files : Files) (name : String) :
    name ∈ (deleteBelow p names files).tree.children (directory p) ↔
      ¬ names.reverse ++ directory p <:+ name :: directory p ∧ name ∈ files.tree.children (directory p) := by
  rw [FileTree.mem_children, FileTree.mem_children, stat_deleteBelow single]
  split <;> simp_all

theorem AndroidShelf.start (sound : files.Sound) (clear : files.tree.Clear (directory p))
    (absent : files.tree.stat (directory p) = none) : AndroidShelf p [] files where
  filed := filed_of_no_directory sound clear absent
  listed name := by
    have nothing : files.tree.children (directory p) = [] := files.tree.children_file (by simp [absent])
    simp [nothing, everStored, logOf]
  named name stored := absurd rfl stored
  chat name _ := by
    rw [getContactMessages_of_no_directory (by simp [absent])]
    rfl

theorem AndroidShelf.storeMessage (shelf : AndroidShelf p operations files) {username : String}
    (single : Component username) (message : Ios.Dictionary) (tag : String) :
    AndroidShelf p (operations ++ [.storeMessage username message tag])
      (MessageStorage.storeMessage p username (.obj message) tag files) where
  filed := shelf.filed.storeMessage single (.obj message) tag
  listed name := by
    rw [children_storeMessage shelf.filed single, shelf.listed, everStored_snoc]
    by_cases own : username = name
    · simp [contactEvents, LogEvent.onto, own]
    · simp [contactEvents, LogEvent.onto, own, Ne.symm own]
  named name stored := by
    rw [everStored_snoc] at stored
    by_cases own : username = name
    · exact own ▸ single
    · apply shelf.named name
      simpa [contactEvents, LogEvent.onto, own] using stored
  chat name plain := by
    rw [getContactMessages_storeMessage shelf.filed single plain, shelf.chat name plain, history_snoc]
    simp only [LogEvent.onto, conversation, Prod.mk.injEq, chat_file, events, List.foldl_cons, List.foldl_nil]
    split <;> simp

theorem AndroidShelf.deleteContactMessages (shelf : AndroidShelf p operations files) {username : String}
    (single : Component username) (tag : String) :
    AndroidShelf p (operations ++ [.deleteContactMessages username tag])
      (MessageStorage.deleteContactMessages p username tag files) where
  filed := (logs_deleteContactMessages shelf.filed single tag).1
  listed name := by
    have parts : ∀ part ∈ [username, (getMessageStoreFilename tag).fileName], Component part := by
      simp [single, HistoryFile.component]
    have apart : ¬ [username, (getMessageStoreFilename tag).fileName].reverse ++ directory p <:+ name :: directory p := by
      intro below
      have lengths := below.length_le
      simp at lengths
    rw [deleteContactMessages_eq single, children_deleteBelow parts, shelf.listed, everStored_snoc]
    simp only [apart, not_false_eq_true, true_and, contactEvents, List.foldl_nil]
  named name stored := by
    rw [everStored_snoc] at stored
    exact shelf.named name stored
  chat name plain := by
    rw [(logs_deleteContactMessages shelf.filed single tag).2 name "chat" plain, shelf.chat name plain, history_snoc]
    simp only [LogEvent.onto, conversation, Prod.mk.injEq, events, List.foldl_cons, List.foldl_nil, decide_eq_true_eq,
      eq_comm (a := getMessageStoreFilename "chat"), chat_file, eq_comm (a := "chat")]
    split <;> simp

theorem AndroidShelf.deleteAllContactMessages (shelf : AndroidShelf p operations files) {username : String}
    (single : Component username) :
    AndroidShelf p (operations ++ [.deleteAllContactMessages username])
      (MessageStorage.deleteAllContactMessages p username files) where
  filed := (logs_deleteAllContactMessages shelf.filed single).1
  listed name := by
    have own : [username].reverse ++ directory p <:+ name :: directory p ↔ name = username := by
      constructor
      · intro below
        exact (List.cons.inj (below.eq_of_length rfl)).1.symm
      · rintro rfl
        exact List.suffix_rfl
    rw [deleteAllContactMessages_eq single, children_deleteBelow (by simpa using single), own, shelf.listed, everStored_snoc]
    simp only [contactEvents, LogEvent.onto, List.foldl_cons, List.foldl_nil, decide_eq_true_eq]
    split <;> simp_all
  named name stored := by
    rw [everStored_snoc] at stored
    apply shelf.named name
    intro empty
    simp [contactEvents, LogEvent.onto, empty] at stored
  chat name plain := by
    rw [(logs_deleteAllContactMessages shelf.filed single).2 name "chat" plain, shelf.chat name plain, history_snoc]
    simp only [LogEvent.onto, conversation, events, List.foldl_cons, List.foldl_nil, decide_eq_true_eq]
    split <;> simp

theorem AndroidShelf.step (shelf : AndroidShelf p operations files) {operation : MessageOperation}
    (single : Component operation.username) :
    AndroidShelf p (operations ++ [operation]) (operation.runAndroid p files) := by
  cases operation with
  | storeMessage username message tag => exact shelf.storeMessage single message tag
  | deleteContactMessages username tag => exact shelf.deleteContactMessages single tag
  | deleteAllContactMessages username => exact shelf.deleteAllContactMessages single

end Android

section Ios

open Ios Ios.MessagesStorage

variable {operations : List MessageOperation} {archives : Archives}

theorem chat_archive (tag : String) : getMessageStorageFilename tag = getMessageStorageFilename "chat" ↔ tag = "chat" := by
  constructor
  · intro same
    by_contra other
    rw [getMessageStorageFilename, if_neg other] at same
    split at same <;> cases same
  · rintro rfl
    rfl

theorem IosShelf.start (empty : ∀ tag, archives (getMessageStorageFilename tag) = none) : IosShelf [] archives := by
  have nothing : ∀ tag, getAllMessages tag archives = [] := by
    intro tag
    rw [getAllMessages, ProtocolStorage.get, empty]
    rfl
  constructor
  · intro name
    rw [getMessages, nothing]
    rfl
  · intro name
    simp [nothing, history, logOf]
  · intro tag name held
    simp [nothing] at held
  · intro tag name value held
    simp [nothing] at held

theorem IosShelf.storeMessage (shelf : IosShelf operations archives) (username : String) (message : Dictionary)
    (tag : String) :
    IosShelf (operations ++ [.storeMessage username message tag]) (save ⟨message⟩ username tag archives) where
  chat name := by
    rw [getMessages_save, shelf.chat, history_snoc]
    simp only [LogEvent.onto, events, List.foldl_cons, List.foldl_nil, Prod.mk.injEq,
      eq_comm (a := getMessageStorageFilename "chat"), chat_archive, eq_comm (a := name)]
    split <;> simp
  listed name := by
    obtain ⟨userData, lookup⟩ := lookup_save ⟨message⟩ username tag "chat" name archives
    rw [lookup, history_snoc]
    simp only [LogEvent.onto, events, List.foldl_cons, List.foldl_nil, Prod.mk.injEq,
      eq_comm (a := getMessageStorageFilename "chat"), chat_archive, and_comm (a := tag = "chat")]
    split
    · simp
    · exact shelf.listed name
  within label name held := by
    obtain ⟨userData, lookup⟩ := lookup_save ⟨message⟩ username tag label name archives
    rw [lookup] at held
    rw [everStored_snoc]
    simp only [contactEvents, LogEvent.onto, List.foldl_cons, List.foldl_nil]
    split
    · simp
    · rename_i other
      rw [if_neg fun both => other both.2] at held
      exact shelf.within label name held
  wrapped label name value held := by
    obtain ⟨userData, lookup⟩ := lookup_save ⟨message⟩ username tag label name archives
    rw [lookup] at held
    split at held
    · exact ⟨userData, (Option.some.inj held).symm⟩
    · exact shelf.wrapped label name value held

theorem IosShelf.deleteContactMessages (shelf : IosShelf operations archives) (username tag : String) :
    IosShelf (operations ++ [.deleteContactMessages username tag])
      (MessagesStorage.deleteContactMessages username tag archives) where
  chat name := by
    rw [getMessages_deleteContactMessages, shelf.chat, history_snoc]
    simp only [LogEvent.onto, events, List.foldl_cons, List.foldl_nil, Prod.mk.injEq, decide_eq_true_eq,
      eq_comm (a := getMessageStorageFilename "chat"), chat_archive, eq_comm (a := "chat")]
    split <;> simp
  listed name := by
    rw [lookup_deleteContactMessages, history_snoc]
    simp only [LogEvent.onto, events, List.foldl_cons, List.foldl_nil, Prod.mk.injEq, decide_eq_true_eq,
      eq_comm (a := getMessageStorageFilename "chat"), chat_archive, and_comm (a := tag = "chat"), eq_comm (a := "chat"),
      eq_comm (a := username)]
    split
    · simp
    · exact shelf.listed name
  within label name held := by
    rw [lookup_deleteContactMessages] at held
    rw [everStored_snoc]
    split at held
    · cases held
    · exact shelf.within label name held
  wrapped label name value held := by
    rw [lookup_deleteContactMessages] at held
    split at held
    · cases held
    · exact shelf.wrapped label name value held

theorem IosShelf.deleteAllContactMessages (shelf : IosShelf operations archives) (username : String) :
    IosShelf (operations ++ [.deleteAllContactMessages username])
      (MessagesStorage.deleteAllContactMessages username archives) where
  chat name := by
    rw [getMessages_deleteAllContactMessages, shelf.chat, history_snoc]
    simp only [LogEvent.onto, events, List.foldl_cons, List.foldl_nil, decide_eq_true_eq]
    split <;> simp
  listed name := by
    rw [lookup_deleteAllContactMessages, history_snoc]
    simp only [LogEvent.onto, events, List.foldl_cons, List.foldl_nil, decide_eq_true_eq, eq_comm (a := username)]
    split
    · simp
    · exact shelf.listed name
  within label name held := by
    rw [lookup_deleteAllContactMessages] at held
    rw [everStored_snoc]
    simp only [contactEvents, LogEvent.onto, List.foldl_cons, List.foldl_nil, decide_eq_true_eq, eq_comm (a := name)]
    split at held
    · cases held
    · rename_i other
      rw [if_neg other]
      exact shelf.within label name held
  wrapped label name value held := by
    rw [lookup_deleteAllContactMessages] at held
    split at held
    · cases held
    · exact shelf.wrapped label name value held

theorem IosShelf.step (shelf : IosShelf operations archives) (operation : MessageOperation) :
    IosShelf (operations ++ [operation]) (operation.runIos archives) := by
  cases operation with
  | storeMessage username message tag => exact shelf.storeMessage username message tag
  | deleteContactMessages username tag => exact shelf.deleteContactMessages username tag
  | deleteAllContactMessages username => exact shelf.deleteAllContactMessages username

end Ios

section Entries

def chatEntry (operations : List MessageOperation) (name : String) : ExistingMessages :=
  ⟨some (.str name), (history operations name "chat").getLast?.map .obj, none, some (.num 0)⟩

variable {p : Android.Platform} {operations : List MessageOperation} {files : Android.Files} {archives : Ios.Archives}

theorem AndroidShelf.existing_chat (shelf : AndroidShelf p operations files) : existingAndroid p "chat" files =
    (files.tree.children (Android.MessageStorage.directory p)).dedup.map (chatEntry operations) := by
  rw [existingAndroid, Android.MessageStorage.getExistingMessages, List.map_map]
  apply List.map_congr_left
  intro name member
  have plain := shelf.named name ((shelf.listed name).mp (List.mem_dedup.mp member))
  rw [Function.comp_apply, shelf.chat name plain, List.getLast?_map, chatEntry]
  cases (history operations name "chat").getLast? <;> simp [ExistingMessages.read, lookup_put]

theorem existingAndroid_messages {tag : String} (other : tag ≠ "chat") {entry : ExistingMessages}
    (member : entry ∈ existingAndroid p tag files) (fields : List (String × Json)) : entry.messages ≠ some (.obj fields) := by
  rw [existingAndroid, Android.MessageStorage.getExistingMessages, List.map_map] at member
  obtain ⟨name, _, rfl⟩ := List.mem_map.mp member
  rw [Function.comp_apply]
  cases (Android.MessageStorage.getContactMessages p name tag files).getLast? <;>
    simp [ExistingMessages.read, lookup_put, other]

theorem members_keys (dictionary : Ios.Dictionary) :
    dictionary.members.map Prod.fst = (dictionary.map Prod.fst).dedup := by
  rw [Ios.Dictionary.members, List.map_filterMap]
  have present : ∀ key ∈ (dictionary.map Prod.fst).dedup,
      ((dictionary.lookup key).map fun value => (key, value)).map Prod.fst = some key := by
    intro key member
    obtain ⟨⟨name, value⟩, row, rfl⟩ := List.mem_map.mp (List.mem_dedup.mp member)
    obtain ⟨found, same⟩ := Option.isSome_iff_exists.mp (lookup_isSome_of_mem row)
    rw [same]
    rfl
  rw [List.filterMap_congr present, List.filterMap_some]

theorem mem_members {dictionary : Ios.Dictionary} {name : String} {value : Json} (member : (name, value) ∈ dictionary.members) :
    dictionary.lookup name = some value := by
  obtain ⟨key, _, found⟩ := List.mem_filterMap.mp member
  obtain ⟨held, lookup, same⟩ := Option.map_eq_some_iff.mp found
  cases same
  exact lookup

theorem IosShelf.existing_chat (shelf : IosShelf operations archives) : existingIos "chat" archives =
    ((Ios.MessagesStorage.getAllMessages "chat" archives).map Prod.fst).dedup.map (chatEntry operations) := by
  rw [existingIos, Ios.SignalClient.getAllContactMessages, ← members_keys, List.map_map, List.map_map]
  apply List.map_congr_left
  rintro ⟨name, value⟩ _
  rw [Function.comp_apply, Function.comp_apply]
  dsimp only
  rw [shelf.chat name, List.getLast?_map, chatEntry]
  cases (history operations name "chat").getLast? <;> simp [ExistingMessages.read, lookup_put]

theorem IosShelf.existing_messages (shelf : IosShelf operations archives) {tag : String} (other : tag ≠ "chat")
    {entry : ExistingMessages} (member : entry ∈ existingIos tag archives) : ∃ fields, entry.messages = some (.obj fields) := by
  rw [existingIos, Ios.SignalClient.getAllContactMessages, List.map_map] at member
  obtain ⟨⟨name, value⟩, row, rfl⟩ := List.mem_map.mp member
  obtain ⟨userData, rfl⟩ := shelf.wrapped tag name value (mem_members row)
  exact ⟨userData, by simp [ExistingMessages.read, lookup_put, other]⟩

theorem mem_keys (dictionary : Ios.Dictionary) (name : String) :
    name ∈ (dictionary.map Prod.fst).dedup ↔ (dictionary.lookup name).isSome := by
  rw [List.mem_dedup, List.mem_map]
  constructor
  · rintro ⟨⟨key, value⟩, row, rfl⟩
    exact lookup_isSome_of_mem row
  · intro present
    obtain ⟨value, found⟩ := Option.isSome_iff_exists.mp present
    exact ⟨(name, value), mem_of_lookup found, rfl⟩

theorem reported_chat_iff (android : AndroidShelf p operations files) (ios : IosShelf operations archives) :
    Reported p operations "chat" files archives ↔
      ∀ username, everStored operations username ≠ [] → history operations username "chat" ≠ [] := by
  have names : ∀ name, name ∈ ((Ios.MessagesStorage.getAllMessages "chat" archives).map Prod.fst).dedup ↔
      history operations name "chat" ≠ [] := fun name => (mem_keys _ name).trans (ios.listed name)
  constructor
  · intro reported username stored
    have entry : chatEntry operations username ∈ existingAndroid p "chat" files := by
      rw [android.existing_chat]
      exact List.mem_map_of_mem (List.mem_dedup.mpr ((android.listed username).mpr stored))
    have both := reported.same.mem_iff.mp entry
    rw [ios.existing_chat] at both
    obtain ⟨key, member, same⟩ := List.mem_map.mp both
    cases same
    exact (names username).mp member
  · intro chat
    refine ⟨?_, ?_⟩
    · rw [android.existing_chat, ios.existing_chat]
      apply List.Perm.map
      rw [List.perm_ext_iff_of_nodup (List.nodup_dedup _) (List.nodup_dedup _)]
      intro name
      rw [List.mem_dedup, android.listed, names]
      exact ⟨chat name, fun held => ios.within "chat" name ((ios.listed name).mpr held)⟩
    · intro entry member name named
      rw [android.existing_chat] at member
      obtain ⟨key, _, rfl⟩ := List.mem_map.mp member
      cases named
      rw [if_pos rfl]
      rfl

theorem reported_other_iff {tag : String} (other : tag ≠ "chat") (android : AndroidShelf p operations files)
    (ios : IosShelf operations archives) :
    Reported p operations tag files archives ↔ ∀ username, everStored operations username = [] := by
  constructor
  · intro reported username
    by_contra stored
    have member : username ∈ files.tree.children (Android.MessageStorage.directory p) := (android.listed username).mpr stored
    cases entries : existingIos tag archives with
    | nil =>
      have none_left := reported.same
      rw [entries, List.perm_nil, existingAndroid, Android.MessageStorage.getExistingMessages, List.map_eq_nil_iff,
        List.map_eq_nil_iff, List.dedup_eq_nil] at none_left
      rw [none_left] at member
      cases member
    | cons entry later =>
      have first : entry ∈ existingIos tag archives := by simp [entries]
      obtain ⟨fields, wrapped⟩ := ios.existing_messages other first
      exact existingAndroid_messages other (reported.same.mem_iff.mpr first) fields wrapped
  · intro empty
    have noChildren : files.tree.children (Android.MessageStorage.directory p) = [] := by
      rw [List.eq_nil_iff_forall_not_mem]
      intro name member
      exact (android.listed name).mp member (empty name)
    have noMembers : (Ios.MessagesStorage.getAllMessages tag archives).members = [] := by
      rw [List.eq_nil_iff_forall_not_mem]
      rintro ⟨name, value⟩ member
      exact ios.within tag name (by rw [mem_members member]; rfl) (empty name)
    have android_nil : existingAndroid p tag files = [] := by
      rw [existingAndroid, Android.MessageStorage.getExistingMessages, noChildren]
      rfl
    have ios_nil : existingIos tag archives = [] := by
      rw [existingIos, Ios.SignalClient.getAllContactMessages, noMembers]
      rfl
    refine ⟨?_, ?_⟩
    · rw [android_nil, ios_nil]
    · rw [android_nil]
      exact fun entry member => absurd member List.not_mem_nil

end Entries

/-- After a run on single path components, both platforms report the same messages if every contact that a message
    was ever stored for has a chat message left and the chats are asked for, and in no other case. -/
theorem existing_messages_agree_iff (p : Android.Platform) (start : Android.Files) (initial : Ios.Archives)
    (fresh : NoMessages p start initial) (operations : List MessageOperation)
    (named : ∀ operation ∈ operations, Component operation.username) (tag : String) :
    Reported p operations tag (runsAndroid p operations start) (runsIos operations initial) ↔
      ∀ username, everStored operations username ≠ [] → tag = "chat" ∧ history operations username tag ≠ [] := by
  have shelves : AndroidShelf p operations (runsAndroid p operations start) ∧ IosShelf operations (runsIos operations initial) := by
    induction operations using List.reverseRecOn with
    | nil => exact ⟨.start fresh.sound fresh.clear fresh.absent, .start fresh.empty⟩
    | append_singleton done operation ih =>
      obtain ⟨android, ios⟩ := ih fun other member => named other (List.mem_append_left _ member)
      rw [runsAndroid, runsIos, List.foldl_append, List.foldl_append]
      exact ⟨android.step (named operation (by simp)), ios.step operation⟩
  obtain ⟨android, ios⟩ := shelves
  by_cases chat : tag = "chat"
  · subst chat
    rw [reported_chat_iff android ios]
    simp
  · rw [reported_other_iff chat android ios]
    simp [chat]

theorem noMessages_plain : NoMessages .plain Android.noFiles Ios.noArchives :=
  ⟨Android.noFiles_filed.sound, Android.noFiles_filed.clear, by decide, fun _ => rfl⟩

theorem everStored_of_unnamed {operations : List MessageOperation} {username : String}
    (unnamed : ∀ operation ∈ operations, operation.username ≠ username) : everStored operations username = [] := by
  induction operations using List.reverseRecOn with
  | nil => rfl
  | append_singleton done operation ih =>
    rw [everStored_snoc, ih fun other member => unnamed other (List.mem_append_left _ member)]
    have other : operation.username ≠ username := unnamed operation (by simp)
    cases operation with
    | storeMessage contact message tag => exact if_neg other
    | deleteContactMessages contact tag => rfl
    | deleteAllContactMessages contact => exact ite_self _

def chats : List MessageOperation :=
  [.storeMessage "carol" [("content", .str "hi")] "chat", .storeMessage "bob" [("content", .str "yo")] "chat",
    .storeMessage "dave" [("content", .str "rent")] "tx-note", .deleteAllContactMessages "dave",
    .deleteContactMessages "carol" "chat", .storeMessage "carol" [("content", .str "again")] "chat"]

theorem chats_are_reported_alike :
    Reported .plain chats "chat" (runsAndroid .plain chats Android.noFiles) (runsIos chats Ios.noArchives) := by
  have named : ∀ operation ∈ chats, Component operation.username := by
    simp only [chats, List.forall_mem_cons, username]
    decide
  apply (existing_messages_agree_iff .plain Android.noFiles Ios.noArchives noMessages_plain chats named "chat").mpr
  intro contact stored
  refine ⟨rfl, ?_⟩
  by_cases one : contact ∈ ["carol", "bob", "dave"]
  · simp only [List.mem_cons, List.not_mem_nil, or_false] at one
    rcases one with rfl | rfl | rfl
    · decide
    · decide
    · exact absurd (by decide) stored
  · refine absurd (everStored_of_unnamed fun operation member same => one ?_) stored
    rw [← same]
    exact (by decide : ∀ operation ∈ chats, operation.username ∈ ["carol", "bob", "dave"]) operation member

def noted : List MessageOperation := [.storeMessage "carol" [("content", .str "rent")] "tx-note"]

theorem existing_messages_differ :
    existingAndroid .plain "chat" (runsAndroid .plain noted Android.noFiles) =
        [⟨some (.str "carol"), none, none, some (.num 0)⟩] ∧
      existingIos "chat" (runsIos noted Ios.noArchives) = [] ∧
      existingAndroid .plain "tx-note" (runsAndroid .plain noted Android.noFiles) =
        [⟨some (.str "carol"), none, some (.arr [.obj [("content", .str "rent")]]), some (.num 0)⟩] ∧
      existingIos "tx-note" (runsIos noted Ios.noArchives) =
        [⟨some (.str "carol"), none, some (.obj [("messages", .arr [.obj [("content", .str "rent")]])]), some (.num 0)⟩] := by
  decide +kernel

end PillarSignal
