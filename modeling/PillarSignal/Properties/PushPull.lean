import PillarSignal.Properties.SessionRebuild
import PillarSignal.Properties.EnvelopeOnce

namespace PillarSignal

open Storage

def forgetSaved : Json → Json
  | .obj members => .obj (members.filter fun member => member.1 ≠ "savedTimestamp")
  | other => other

namespace Android

open SignalClient

variable {p : Platform} {files : Files}

theorem Attempts.escaping_eq {attempts : Attempts} (other : attempts.escaping false ≠ some .nullPointer) :
    attempts.escaping true = attempts.escaping false := by
  have handlers : ∀ {e : Thrown}, e ≠ .nullPointer → caughtLater true e = caughtLater false e := by
    intro e differs
    simp [caughtLater, differs]
  unfold Attempts.escaping at other ⊢
  split
  · rfl
  · split
    · split
      · rfl
      · rename_i first calls thrown caught _ later others last
        by_cases null : later = .nullPointer
        · subst null
          simp [thrown, caught, last, caughtLater] at other
        · rw [handlers null]
    · rfl

theorem getContactMessages_single {username messageTag : String} {response : Response} {entry : Json} {envelope : Envelope}
    (queue : OrgJson.optJSONArray (ServerResponse.getResponseJSONObject p response) "messages" = some [entry])
    (pulled : pulledEnvelope p username messageTag true entry files = some envelope) (draws : Nat → Draw) :
    (getContactMessages p username messageTag true (.answered response) draws files).files =
        (processEnvelope true p envelope messageTag (draws 0) files).files ∧
      ((getContactMessages p username messageTag true (.answered response) draws files).settlement.isSome ↔
        ∀ e, (processEnvelope true p envelope messageTag (draws 0) files).result = .error e →
          e ∈ [.json, .io, .noSession, .nullPointer]) := by
  have round := @pullEntry_result p username messageTag true entry ⟨files, [], [], [], []⟩ envelope pulled (draws 0)
  have left := @pullEntry_files p username messageTag true entry (draws 0) ⟨files, [], [], [], []⟩
  rw [pulled] at left
  unfold getContactMessages
  dsimp only at round left ⊢
  rw [queue, Option.getD_some, pullLoop]
  cases ended : pullEntry p username messageTag true entry (draws 0) ⟨files, [], [], [], []⟩ with
  | mk result state =>
    rw [ended] at round left
    dsimp only at round left
    cases done : (processEnvelope true p envelope messageTag (draws 0) files).result with
    | error e =>
      rw [done] at round
      rw [round]
      refine ⟨left, ?_⟩
      simp [Except.map, pullSettlement]
    | ok message =>
      rw [done] at round
      rw [round]
      refine ⟨left, ?_⟩
      simp [Except.map, pullLoop, pullSettlement]

/-- The same files, but for the `savedTimestamp` of a message that was added to both. -/
inductive Alike (p : Platform) (username tag : String) : Files → Files → Prop where
  | same (files : Files) : Alike p username tag files files
  | stored (files : Files) {left right : Json} (alike : forgetSaved left = forgetSaved right) :
      Alike p username tag (MessageStorage.storeMessage p username left tag files)
        (MessageStorage.storeMessage p username right tag files)

theorem Alike.readObject_eq {username tag : String} {left right : Files} (alike : Alike p username tag left right)
    (file : ProtocolStorage.StorageFile) : ProtocolStorage.readObject p file left = ProtocolStorage.readObject p file right := by
  cases alike with
  | same => rfl
  | stored files alike => rw [MessageStorage.readObject_storeMessage, MessageStorage.readObject_storeMessage]

theorem forgetSaved_messageJSONO (messageBytes : Option Bytes) (username : String)
    (device serverTimestamp left right : Int) :
    forgetSaved (messageJSONO p messageBytes username device serverTimestamp left) =
      forgetSaved (messageJSONO p messageBytes username device serverTimestamp right) := by
  cases messageBytes <;> simp [messageJSONO, forgetSaved]

/-- The exceptions that end the decryptions are among those that a push and a pull both report. -/
def Settles (attempts : Attempts) (pushTime pullTime : Int) : Prop :=
  match attempts.escaping false with
  | some e => e ∈ [.json, .io, .noSession]
  | none => attempts.reportedDuplicate = true ∨ (Dated pushTime ∧ Dated pullTime)

/-- A push and a pull of one envelope leave the same stores and both come to an end exactly if every exception that
    ends the decryptions is one that both report. -/
theorem push_stores_what_pull_stores_iff (p : Platform) (files : Files) (messageTag : String) (receivedMessage : List Char)
    (response : Response) (entry : Json) (envelope : Envelope) (attempts : Attempts) (pushTime pullTime : Int)
    (pushed : pushedEnvelope p receivedMessage files = some envelope)
    (queue : OrgJson.optJSONArray (ServerResponse.getResponseJSONObject p response) "messages" = some [entry])
    (pulled : pulledEnvelope p envelope.source messageTag true entry files = some envelope) :
    let push := decryptSignalMessage p messageTag receivedMessage ⟨attempts, pushTime⟩ files
    let pull := getContactMessages p envelope.source messageTag true (.answered response) (fun _ => ⟨attempts, pullTime⟩) files
    (Alike p envelope.source messageTag push.files pull.files ∧
      (∀ file, ProtocolStorage.readObject p file push.files = ProtocolStorage.readObject p file pull.files) ∧
      push.settlement.isSome ∧ pull.settlement.isSome) ↔ Settles attempts pushTime pullTime := by
  have push := decryptSignalMessage_of_envelope pushed messageTag ⟨attempts, pushTime⟩
  obtain ⟨pull_files, pull_settles⟩ := getContactMessages_single queue pulled fun _ => ⟨attempts, pullTime⟩
  dsimp only at pull_files pull_settles ⊢
  rw [push, pushEnvelope_files, pushEnvelope_settlement, pull_files, pull_settles, processEnvelope_eq, processEnvelope_eq]
  dsimp only
  unfold Settles
  cases ended : attempts.escaping false with
  | some e =>
    dsimp only
    by_cases reported : e ∈ [.json, .io, .noSession]
    · have again := attempts.escaping_eq (by rw [ended]; rintro ⟨⟩; simp at reported)
      rw [again, ended]
      refine ⟨fun _ => reported, fun _ => ⟨.same _, fun _ => rfl, ?_, fun other thrown => ?_⟩⟩
      · simp only [pushSettlement, if_pos reported, Option.isSome_some]
      · cases thrown
        exact List.mem_append_left [.nullPointer] reported
    · refine ⟨fun ⟨_, _, settled, _⟩ => ?_, fun holds => absurd holds reported⟩
      simp only [pushSettlement, if_neg reported, Option.isSome_none] at settled
      cases settled
  | none =>
    have again := attempts.escaping_eq (by rw [ended]; nofun)
    rw [again, ended, toMessageJSONO_eq, toMessageJSONO_eq]
    dsimp only
    cases attempts.reportedDuplicate with
    | true => simp [Alike.same]
    | false =>
      by_cases pushDated : Dated pushTime
      · by_cases pullDated : Dated pullTime
        · have saved := @forgetSaved_messageJSONO p attempts.plaintext envelope.source 1 envelope.timestamp
            (pushTime.tdiv 1000) (pullTime.tdiv 1000)
          have both := @Alike.stored p envelope.source messageTag
            (decrypt false p envelope.address attempts files).files _ _ saved
          simp [pushDated, pullDated, both, both.readObject_eq]
        · simp [pullDated]
      · simp [pushDated, pushSettlement]

section Missing

open Plain (bobPush)

def preKeyAttempt (outcome : Attempt) : Attempts := ⟨.throws .invalidMessage [], outcome, .throws .invalidMessage []⟩

theorem warning_is_stored_alike :
    let attempts := preKeyAttempt (.throws .invalidMessage [])
    let push := decryptSignalMessage .plain "chat" bobPush ⟨attempts, 1000⟩ (bobFiles "[]")
    let pull := getContactMessages .plain "bob" "chat" true (.answered bobQueue) (fun _ => ⟨attempts, 9000⟩) (bobFiles "[]")
    Alike .plain "bob" "chat" push.files pull.files ∧
      (∀ file, ProtocolStorage.readObject .plain file push.files = ProtocolStorage.readObject .plain file pull.files) ∧
      push.settlement.isSome ∧ pull.settlement.isSome :=
  (push_stores_what_pull_stores_iff .plain (bobFiles "[]") "chat" bobPush bobQueue (.obj Plain.bobEntry)
    ⟨"bob", 5, Plain.text.decode "m" |>.getD []⟩ (preKeyAttempt (.throws .invalidMessage [])) 1000 9000 (by decide +kernel)
    (by decide +kernel) (by decide +kernel)).mpr (.inr ⟨by decide, by decide⟩)

/-- The pre key that the message names is not stored: the pull stores a warning, the push stores nothing and never
    comes back. -/
theorem missing_pre_key_push_differs :
    let attempts := preKeyAttempt (.throws .nullPointer [])
    let push := decryptSignalMessage .plain "chat" bobPush ⟨attempts, 1000⟩ (bobFiles "[]")
    let pull := getContactMessages .plain "bob" "chat" true (.answered bobQueue) (fun _ => ⟨attempts, 1000⟩) (bobFiles "[]")
    push.settlement = none ∧ MessageStorage.getContactMessages .plain "bob" "chat" push.files = [] ∧
      pull.settlement.isSome ∧ (MessageStorage.getContactMessages .plain "bob" "chat" pull.files).length = 1 := by
  decide +kernel

end Missing

end Android

namespace Ios

open SignalClient

variable {p : Platform} {archives : Archives}

def Attempt.fails : Attempt → Bool
  | .plaintext _ _ | .throws .duplicateMessage _ => false
  | .throws _ _ => true

def Attempts.undecryptable (attempts : Attempts) : Bool := attempts.signal.fails && attempts.last.fails

theorem Attempts.undecryptable_plaintext {attempts : Attempts} (nothing : attempts.undecryptable = true) :
    attempts.plaintext = none := by
  unfold undecryptable at nothing
  rw [Bool.and_eq_true] at nothing
  obtain ⟨first, last⟩ := nothing
  have fails : ∀ attempt : Attempt, attempt.fails = true → attempt.data = none := by
    intro attempt thrown
    cases attempt with
    | plaintext data calls => cases thrown
    | throws error calls => rfl
  unfold plaintext
  split
  · rename_i signal
    rw [signal] at first
    cases first
  · rfl
  · exact fails _ last

def Decryption.stored : Decryption → Option (Option Bytes)
  | .plaintext data => some (some data)
  | .duplicate => none
  | .undecryptable _ _ => some none

theorem decryptLast_stored (reset : Bool) (address : SignalProtocolAddress) (attempt : Attempt) (archives : Archives) :
    (decryptLast p reset address attempt archives).1.stored =
      if attempt.fails then some none else attempt.data.map some := by
  cases attempt with
  | plaintext data calls => rfl
  | throws error calls => cases error <;> rfl

theorem decrypt_stored (address : SignalProtocolAddress) (attempts : Attempts) (archives : Archives) :
    (decrypt p address attempts archives).1.stored =
      if attempts.undecryptable then some none else attempts.plaintext.map some := by
  unfold Attempts.undecryptable Attempts.plaintext
  cases first : attempts.signal with
  | plaintext data calls =>
    rw [decrypt, first]
    rfl
  | throws error calls =>
    cases error with
    | duplicateMessage =>
      rw [decrypt, first]
      rfl
    | untrustedIdentity =>
      rw [decrypt_last first (by simp)]
      exact decryptLast_stored ..
    | other =>
      rw [decrypt_last first (by simp)]
      exact decryptLast_stored ..

theorem parseMessage_archives (username messageTag : String) (message : MessageDTO) (draw : Draw) (state : Parsing) :
    (parseMessage p username messageTag message draw state).archives =
      match if draw.attempts.undecryptable then some none else draw.attempts.plaintext.map some with
      | some data => MessagesStorage.save (receivedMessage p message draw data) username messageTag
          (decrypt p ⟨username, 1⟩ draw.attempts state.archives).2
      | none => (decrypt p ⟨username, 1⟩ draw.attempts state.archives).2 := by
  rw [← @decrypt_stored p ⟨username, 1⟩ draw.attempts state.archives, parseMessage]
  cases decrypt p ⟨username, 1⟩ draw.attempts state.archives with
  | mk decryption archives => cases decryption <;> rfl

theorem parseMessages_single {username messageTag : String} {dict entry : Dictionary}
    (queue : (dict.lookup "messages").bind asDictionaries = some [entry])
    (pulled : pulledMessage p username messageTag true entry archives = some ⟨entry⟩) (draws : Nat → Draw) :
    ∃ unread, (parseMessages p true username messageTag true draws dict archives).2 =
      (parseMessage p username messageTag ⟨entry⟩ (draws 0) ⟨archives, unread, [], []⟩).archives := by
  obtain ⟨unread, counted⟩ := @counted_eq username ⟨entry⟩ ⟨archives, [], [], []⟩
  unfold pulledMessage at pulled
  split at pulled
  · rename_i chosen
    refine ⟨unread, ?_⟩
    unfold parseMessages
    rw [if_pos rfl, queue]
    dsimp only [parseLoop]
    rw [parseEntry, if_pos chosen.1, counted, if_pos chosen.2]
  · cases pulled

def MessageDTO.envelope (p : Platform) (message : MessageDTO) : String × Int × Option Bytes :=
  (message.source, message.timestamp, message.messageData p)

/-- The same archives, but for the `savedTimestamp` of the messages. -/
structure Alike (left right : Archives) : Prop where
  stores : ∀ type, (∀ tag, type ≠ MessagesStorage.getMessageStorageFilename tag) → left type = right type
  histories : ∀ username tag,
    (MessagesStorage.getMessages username tag left).map (fun message => forgetSaved (.obj message.dictionary)) =
      (MessagesStorage.getMessages username tag right).map fun message => forgetSaved (.obj message.dictionary)

theorem Alike.save {left right : ParsedMessageDTO}
    (alike : forgetSaved (.obj left.dictionary) = forgetSaved (.obj right.dictionary)) (username tag : String)
    (archives : Archives) :
    Alike (MessagesStorage.save left username tag archives) (MessagesStorage.save right username tag archives) where
  stores type other := by
    rw [MessagesStorage.save, MessagesStorage.save, MessagesStorage.saveAllMessages, MessagesStorage.saveAllMessages,
      ProtocolStorage.save, ProtocolStorage.save, Function.update_of_ne (other tag), Function.update_of_ne (other tag)]
  histories other otherTag := by
    rw [MessagesStorage.getMessages_save, MessagesStorage.getMessages_save]
    split
    · rw [List.map_append, List.map_append, List.map_singleton, List.map_singleton, alike]
    · rfl

/-- A push and a pull of one message leave the same archives exactly if some attempt decrypts it or finds it a
    duplicate. -/
theorem push_archives_what_pull_archives_iff (p : Platform) (store : Bool) (archives : Archives) (messageTag : String)
    (received : List Char) (dict entry : Dictionary) (message : MessageDTO) (attempts : Attempts) (pushTime pullTime : Int)
    (pushed : pushedMessage p store received archives = some message)
    (queue : (dict.lookup "messages").bind asDictionaries = some [entry])
    (pulled : pulledMessage p message.source messageTag true entry archives = some ⟨entry⟩)
    (same : MessageDTO.envelope p ⟨entry⟩ = message.envelope p) :
    Alike (decryptSignalMessage p store messageTag received ⟨attempts, pushTime⟩ archives).2
        (parseMessages p store message.source messageTag true (fun _ => ⟨attempts, pullTime⟩) dict archives).2 ↔
      attempts.undecryptable = false := by
  obtain ⟨source, timestamp, ciphertext⟩ : MessageDTO.source ⟨entry⟩ = message.source ∧
      MessageDTO.timestamp ⟨entry⟩ = message.timestamp ∧ MessageDTO.messageData p ⟨entry⟩ = message.messageData p := by
    simpa [MessageDTO.envelope] using same
  have opened : store = true := by
    unfold pushedMessage at pushed
    split at pushed
    · split at pushed
      · rename_i found
        simp only [Bool.and_eq_true] at found
        exact found.1.1
      · cases pushed
    · cases pushed
  subst opened
  obtain ⟨unread, pull⟩ := parseMessages_single queue pulled fun _ => ⟨attempts, pullTime⟩
  have entries : ∀ data, forgetSaved (.obj (receivedMessage p message ⟨attempts, pushTime⟩ data).dictionary) =
      forgetSaved (.obj (receivedMessage p ⟨entry⟩ ⟨attempts, pullTime⟩ data).dictionary) := by
    intro data
    cases data <;> simp [receivedMessage, forgetSaved, source, timestamp]
  rw [pull, parseMessage_archives, decryptSignalMessage_archives, pushed]
  dsimp only
  generalize (decrypt p ⟨message.source, 1⟩ attempts archives).2 = decrypted
  cases undecryptable : attempts.undecryptable with
  | true =>
    rw [attempts.undecryptable_plaintext undecryptable]
    refine ⟨fun alike => ?_, nofun⟩
    have lengths := congrArg List.length (alike.histories message.source messageTag)
    simp [MessagesStorage.getMessages_save] at lengths
  | false =>
    refine ⟨fun _ => rfl, fun _ => ?_⟩
    rw [if_neg Bool.false_ne_true]
    cases attempts.plaintext with
    | none => exact ⟨fun _ _ => rfl, fun _ _ => rfl⟩
    | some data => exact Alike.save (entries (some data)) ..

section Undecryptable

open Plain (bobEntry bobPush)

def secondAttempt (outcome : Attempt) : Attempts := ⟨.throws .other [], outcome, .throws .other []⟩

theorem plaintext_is_archived_alike :
    let attempts := secondAttempt (.plaintext [104, 105] [.saveIdentity ⟨[7]⟩])
    Alike (decryptSignalMessage .plain true "chat" bobPush ⟨attempts, 1⟩ bobArchives).2
      (parseMessages .plain true "bob" "chat" true (fun _ => ⟨attempts, 9⟩) [("messages", .arr [.obj bobEntry])]
        bobArchives).2 :=
  (push_archives_what_pull_archives_iff .plain true bobArchives "chat" bobPush [("messages", .arr [.obj bobEntry])]
    bobEntry ⟨[("legacyMessage", .str "m"), ("source", .str "bob"), ("timestamp", .num 5)]⟩
    (secondAttempt (.plaintext [104, 105] [.saveIdentity ⟨[7]⟩])) 1 9 (by decide +kernel) (by decide +kernel)
    (by decide +kernel) (by decide +kernel)).mpr (by decide)

/-- What no attempt can decrypt is a warning in the history after a pull, and is missing there after a push. -/
theorem undecryptable_push_differs :
    let attempts := secondAttempt (.throws .other [])
    let push := (decryptSignalMessage .plain true "chat" bobPush ⟨attempts, 1⟩ bobArchives).2
    let pull := (parseMessages .plain true "bob" "chat" true (fun _ => ⟨attempts, 1⟩)
      [("messages", .arr [.obj bobEntry])] bobArchives).2
    MessagesStorage.getMessages "bob" "chat" push = [] ∧
      (MessagesStorage.getMessages "bob" "chat" pull).map (·.dictionary.lookup "status") =
        [some (.str "UNDECRYPTABLE_MESSAGE")] := by
  decide +kernel

end Undecryptable

end Ios
end PillarSignal
