import PillarSignal.Storage.Log
import PillarSignal.Ios.Client

namespace PillarSignal.Ios

open Storage ProtocolStorage MessagesStorage DownloadsType SignalClient

variable {p : Platform} {verify : Verify}

/-- A conversation is known by its contact and the archive that its tag is kept in. -/
abbrev Conversation := String × DownloadsType

def conversation (username tag : String) : Conversation := (username, getMessageStorageFilename tag)

/-- What an operation means for the conversations: messages that were sent or received are added for the
    contact they went to or came from, and deletions empty what they cover. -/
def Operation.events (p : Platform) (archives : Archives) : Operation verify → List (LogEvent Conversation ParsedMessageDTO)
  | .createClient username draw =>
    if (RNSignalClientModule.createClient username draw archives).1 = .checking ∨
      RNSignalClientModule.performSoftReset archives then [] else [.clear fun _ => true]
  | .resetAccount => [.clear fun _ => true]
  | .deleteContact _ username => [.clear fun key => key.1 = username]
  | .deleteContactMessages username messageTag => [.clear fun key => key = conversation username messageTag]
  | .getContactMessages store username messageTag decodeAndSave exchange draws =>
    match SignalServer.call p exchange with
    | .success dict =>
      (parsedMessages (parseMessages p store username messageTag decodeAndSave draws dict archives)).map
        (.append (conversation username messageTag))
    | _ => []
  | .decryptSignalMessage store messageTag received draw =>
    match pushedMessage p store received archives, draw.attempts.plaintext with
    | some message, some data =>
      [.append (conversation message.source messageTag) (receivedMessage p message draw (some data))]
    | _, _ => []
  | .sendMessage self out rounds =>
    (SignalClient.sendMessage p self out rounds archives).saved.toList.map (.append (conversation out.username out.messageTag))
  | .saveSentMessage self messageTag username messageString timestamp =>
    [.append (conversation username messageTag) (sentMessage self messageString timestamp)]
  | _ => []

theorem getMessages_deleteAllContactMessages (username other tag : String) (archives : Archives) :
    getMessages other tag (deleteAllContactMessages username archives) =
      if other = username then [] else getMessages other tag archives := by
  have covered := storage_mem tag
  rw [deleteAllContactMessages, availableTags, List.foldl_cons, List.foldl_cons, List.foldl_cons, List.foldl_nil]
  simp only [getMessages_deleteContactMessages]
  by_cases own : other = username
  · have chat : getMessageStorageFilename "chat" = MESSAGES_CHAT_JSON_FILENAME := by decide
    have note : getMessageStorageFilename "tx-note" = MESSAGES_TXNOTE_JSON_FILENAME := by decide
    have rest : getMessageStorageFilename "other" = MESSAGES_OTHER_JSON_FILENAME := by decide
    simp only [List.mem_cons, List.not_mem_nil, or_false] at covered
    rcases covered with file | file | file <;> simp [own, file, chat, note, rest]
  · simp [own]

theorem conversation_eq_iff (username tag other otherTag : String) :
    conversation username tag = conversation other otherTag ↔
      other = username ∧ getMessageStorageFilename otherTag = getMessageStorageFilename tag := by
  rw [conversation, conversation, Prod.mk.injEq, eq_comm, @eq_comm _ (getMessageStorageFilename tag)]

theorem getMessages_save_onto (message : ParsedMessageDTO) (username tag other otherTag : String) (archives : Archives) :
    getMessages other otherTag (save message username tag archives) =
      (LogEvent.append (conversation username tag) message).onto (conversation other otherTag)
        (getMessages other otherTag archives) := by
  rw [getMessages_save, LogEvent.onto]
  simp only [conversation_eq_iff]

theorem SignalClient.Delivers.getMessages_eq {username messageTag : String} {before after : Archives}
    {messages : List ParsedMessageDTO} (delivers : Delivers username messageTag before messages after)
    (other tag : String) :
    MessagesStorage.getMessages other tag after = (messages.map (.append (conversation username messageTag))).foldl
      (LogEvent.onto (conversation other tag)) (MessagesStorage.getMessages other tag before) := by
  induction delivers with
  | done upkeep => exact upkeep.getMessages_eq other tag
  | @next before between after message later upkeep _ ih =>
    rw [ih, getMessages_save_onto, upkeep.getMessages_eq]
    rfl

theorem getMessages_sendMessage (self : String) (out : Outgoing) (rounds : List Round) (archives : Archives)
    (other tag : String) :
    getMessages other tag (sendMessage p self out rounds archives).archives =
      ((sendMessage p self out rounds archives).saved.toList.map (.append (conversation self out.messageTag))).foldl
        (LogEvent.onto (conversation other tag)) (getMessages other tag archives) := by
  have writes := @sendMessage_writes p self out rounds archives
  unfold Sending.Writes at writes
  cases saved : (sendMessage p self out rounds archives).saved with
  | none =>
    rw [saved] at writes
    exact Upkeep.getMessages_eq writes other tag
  | some message =>
    rw [saved] at writes
    obtain ⟨between, upkeep, stored⟩ := writes
    rw [stored, getMessages_save_onto, upkeep.getMessages_eq]
    rfl

/-- The message, if it is sent, goes to the user who sends it. -/
def Operation.ToSelf (p : Platform) (archives : Archives) : Operation verify → Prop
  | .sendMessage self out rounds => (SignalClient.sendMessage p self out rounds archives).saved = none ∨ out.username = self
  | _ => True

theorem getMessages_createClient (username : String) (draw : AccountDraw) (archives : Archives) (other tag : String) :
    getMessages other tag (RNSignalClientModule.createClient username draw archives).2 =
      if (RNSignalClientModule.createClient username draw archives).1 = .checking ∨
        RNSignalClientModule.performSoftReset archives then getMessages other tag archives else [] := by
  rcases RNSignalClientModule.createClient_cases username draw archives with ⟨same, _⟩ | ⟨result, after, sent, same⟩
  · simp [same]
  · have kept := getMessages_register username draw (RNSignalClientModule.wiped archives) other tag
    rw [sent, RNSignalClientModule.getMessages_wiped] at kept
    cases result <;> simp [same, kept]

theorem Operation.run_events (operation : Operation verify) (archives : Archives) (toSelf : operation.ToSelf p archives)
    (other tag : String) :
    getMessages other tag (operation.run p archives) =
      (operation.events p archives).foldl (LogEvent.onto (conversation other tag)) (getMessages other tag archives) := by
  have not_key : getMessageStorageFilename tag ∉ [LOCAL_JSON_FILENAME, PRE_KEYS_JSON_FILENAME,
      SIGNED_PRE_KEYS_JSON_FILENAME] := storage_not_mem tag (by decide)
  have registered : ∀ found : Option (Batch verify), getMessages other tag
      (found.elim archives fun batch => (batch.register p archives).2) = getMessages other tag archives := by
    intro found
    cases found with
    | none => rfl
    | some batch => exact getMessages_congr (get_registerPreKeys not_key ..) other
  cases operation with
  | createClient username draw =>
    rw [Operation.run, getMessages_createClient, Operation.events]
    split
    · rfl
    · rfl
  | register username draw => exact getMessages_register username draw archives other tag
  | accountAnswered exchange generated =>
    rw [Operation.run_accountAnswered]
    exact registered _
  | checkPreKeys store exchange generated =>
    rw [Operation.run_checkPreKeys]
    exact registered _
  | resetAccount => rfl
  | addContact store username forceAdd exchange process =>
    have upkeep := RNSignalClientModule.upkeep_addContact p store username forceAdd exchange process archives
    exact upkeep.getMessages_eq other tag
  | deleteContact store username =>
    obtain ⟨between, removed, same⟩ := RNSignalClientModule.upkeep_deleteContact store username archives
    rw [Operation.run, same, getMessages_deleteAllContactMessages, removed.getMessages_eq]
    simp [Operation.events, LogEvent.onto, conversation]
  | deleteContactMessages username messageTag =>
    rw [Operation.run, getMessages_deleteContactMessages]
    simp [Operation.events, LogEvent.onto, conversation]
  | getContactMessages store username messageTag decodeAndSave exchange draws =>
    rw [Operation.run, SignalClient.getContactMessages, Operation.events]
    cases SignalServer.call p exchange with
    | success dict => exact (parseMessages_delivers store decodeAndSave draws dict archives).getMessages_eq other tag
    | failure error => rfl
    | neither => rfl
  | decryptSignalMessage store messageTag received draw =>
    rw [Operation.run, decryptSignalMessage_archives, Operation.events]
    cases pushedMessage p store received archives with
    | none => rfl
    | some message =>
      have upkeep := upkeep_decrypt p ⟨message.source, 1⟩ draw.attempts archives
      cases draw.attempts.plaintext with
      | none => exact upkeep.getMessages_eq other tag
      | some data =>
        dsimp only
        rw [getMessages_save_onto, upkeep.getMessages_eq]
        rfl
  | prepareApiBody store out encryption =>
    exact (upkeep_prepareApiBody p store out encryption archives).getMessages_eq other tag
  | sendMessage self out rounds =>
    rw [Operation.run, getMessages_sendMessage, Operation.events]
    rcases toSelf with unsent | rfl
    · simp [unsent]
    · rfl
  | saveSentMessage self messageTag username messageString timestamp => exact getMessages_save_onto ..

theorem toSelf_of_log {archives : Archives} {operation : Operation verify} {logged : List (LogEvent Conversation ParsedMessageDTO)}
    (before : ∀ username tag, getMessages username tag archives = logOf logged (conversation username tag))
    (after : ∀ username tag, getMessages username tag (operation.run p archives) =
      logOf (logged ++ operation.events p archives) (conversation username tag)) : operation.ToSelf p archives := by
  cases operation with
  | sendMessage self out rounds =>
    by_contra misfiled
    simp only [Operation.ToSelf, not_or] at misfiled
    obtain ⟨message, sent⟩ := Option.ne_none_iff_exists'.mp misfiled.1
    have shown := after self out.messageTag
    have apart : conversation out.username out.messageTag ≠ conversation self out.messageTag := by
      rw [ne_eq, conversation_eq_iff]
      exact fun same => misfiled.2 same.1.symm
    rw [logOf_append, ← before, Operation.run, getMessages_sendMessage, Operation.events, sent] at shown
    simp [LogEvent.onto, apart] at shown
  | _ => trivial

/-- Along every run from empty histories, the histories are the conversations exactly as long as the user
    sends messages to nobody else. -/
theorem conversation_log_iff (p : Platform) (archives : Archives) (operations : List (Operation verify))
    (empty : ∀ username tag, getMessages username tag archives = []) :
    (∀ done, done <+: operations → ∀ username tag, getMessages username tag (runs p done archives) =
      logOf (trace (Operation.run p) (Operation.events p) done archives) (conversation username tag)) ↔
    ∀ done operation, done ++ [operation] <+: operations → operation.ToSelf p (runs p done archives) := by
  constructor
  · intro logged done operation below
    have before := logged done ((List.prefix_append done [operation]).trans below)
    have after := logged (done ++ [operation]) below
    simp only [runs_snoc, trace_snoc] at after
    exact toSelf_of_log before after
  · intro toSelf done below username tag
    have keeps : ∀ (state : Archives) (operation : Operation verify), True → operation.ToSelf p state → True :=
      fun _ _ _ _ => trivial
    have shows : ∀ (state : Archives) (operation : Operation verify), True → operation.ToSelf p state →
        getMessages username tag (Operation.run p state operation) = (Operation.events p state operation).foldl
          (LogEvent.onto (conversation username tag)) (getMessages username tag state) :=
      fun state operation _ allowed => operation.run_events state allowed username tag
    exact (logOf_trace keeps shows trivial (empty username tag) done fun before operation within =>
      toSelf before operation (within.trans below)).2

section Misfiled

def sendToBob (self : String) : Operation everySignature :=
  .sendMessage self ⟨"bob", "hi", "", "", "chat", false⟩
    [⟨true, .ciphertext [1] 2 [], .answered 204 [], 9, true, .failed, fun _ => .ok []⟩]

def bobRun : List (Operation everySignature) :=
  [sendToBob "bob", .saveSentMessage "bob" "chat" "carol" "hello" 7, .deleteContactMessages "bob" "chat"]

theorem messages_to_self_are_logged :
    let after := runs .plain bobRun fun _ => none
    let logged := trace (Operation.run .plain) (Operation.events .plain) bobRun fun _ => none
    getMessages "bob" "chat" after = logOf logged (conversation "bob" "chat") ∧
      getMessages "carol" "chat" after = logOf logged (conversation "carol" "chat") := by
  have toSelf : ∀ done operation, done ++ [operation] <+: bobRun →
      operation.ToSelf .plain (runs .plain done fun _ => none) := by
    intro done operation below
    have member : operation ∈ bobRun := below.subset (by simp)
    simp only [bobRun, List.mem_cons, List.not_mem_nil, or_false] at member
    rcases member with rfl | rfl | rfl
    · exact .inr rfl
    · trivial
    · trivial
  have logged := (conversation_log_iff .plain (fun _ => none) bobRun fun _ _ => rfl).mpr toSelf bobRun List.prefix_rfl
  exact ⟨logged "bob" "chat", logged "carol" "chat"⟩

/-- A message that alice sends to bob is missing from bob's history and stands in alice's own. -/
theorem message_to_bob_is_misfiled :
    let after := runs .plain [sendToBob "alice"] fun _ => none
    let logged := trace (Operation.run .plain) (Operation.events .plain) [sendToBob "alice"] fun _ => none
    getMessages "bob" "chat" after = [] ∧ logOf logged (conversation "bob" "chat") = [sentMessage "alice" "hi" 9] ∧
    getMessages "alice" "chat" after = [sentMessage "alice" "hi" 9] ∧ logOf logged (conversation "alice" "chat") = [] := by
  decide +kernel

end Misfiled
end PillarSignal.Ios
