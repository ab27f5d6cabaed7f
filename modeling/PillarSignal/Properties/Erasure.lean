import PillarSignal.Android.Callbacks
import PillarSignal.Properties.AndroidConversation
import PillarSignal.Properties.Delivery
import PillarSignal.Properties.UploadedKeys

namespace PillarSignal.Android

open Storage SignalClient ProtocolStorage

variable {verify : Verify} {p : Platform} {files before after : Files}

/-- The answer is none that makes the callback store a message or keys: a message is not accepted, no entry of the
    queue comes to be decrypted, and no keys are asked for. -/
def Callback.harmless (p : Platform) (answer : Answer verify) (files : Files) (callback : Callback) : Bool :=
  match callback, answer.exchange with
  | .sendPut _ _, .answered response => staleDevices p response
  | .contactMessages username messageTag decodeAndSave, .answered response =>
    ((OrgJson.optJSONArray (ServerResponse.getResponseJSONObject p response) "messages").getD []).all fun entry =>
      (pulledEnvelope p username messageTag decodeAndSave entry files).isNone
  | .accounts, .answered _ => false
  | .keysCount, .answered response =>
    !(decide (p.json.optInt (ServerResponse.getResponseJSONObject p response) "count" 0 ≤ 10) && response.code == 200)
  | _, _ => true

theorem pullLoop_quiet {username messageTag : String} {decodeAndSave : Bool} (draws : Nat → Draw) {entries : List Json}
    {state : Pull} (quiet : ∀ entry ∈ entries, pulledEnvelope p username messageTag decodeAndSave entry state.files = none)
    (i : Nat) : (pullLoop p username messageTag decodeAndSave draws i entries state).2.files = state.files := by
  induction entries generalizing i state with
  | nil => rfl
  | cons entry later ih =>
    have first := @pullEntry_files p username messageTag decodeAndSave entry (draws i) state
    rw [quiet entry (by simp)] at first
    rw [pullLoop]
    cases round : pullEntry p username messageTag decodeAndSave entry (draws i) state with
    | mk result next =>
      rw [round] at first
      dsimp only at first
      cases result with
      | error e => exact first
      | ok done =>
        refine (ih (fun other member => ?_) (i + 1)).trans first
        rw [first]
        exact quiet other (by simp [member])

theorem Callback.run_upkeep (answer : Answer verify) (files : Files) (callback : Callback)
    (harmless : callback.harmless p answer files = true) : Upkeep p files (callback.run p answer files).2 := by
  unfold Callback.run
  cases callback with
  | sendTimestamp out =>
    have prepared := upkeep_prepareApiBody p out answer.encryption files
    dsimp only
    split
    · split <;>
      · rename_i same
        rw [same] at prepared
        exact prepared
    · exact .refl
  | sendPut out timestamp =>
    unfold Callback.harmless at harmless
    cases answered : answer.exchange with
    | answered response =>
      rw [answered] at harmless
      dsimp only at harmless ⊢
      rw [if_pos harmless]
      exact .refl
    | _ => exact .refl
  | sendKeys out =>
    have rebuilt := @upkeep_requestPreKeys p out.username answer.exchange answer.process files
    dsimp only
    split <;>
    · rename_i same
      rw [same] at rebuilt
      exact rebuilt
  | sendAgain out => exact .refl
  | contactMessages username messageTag decodeAndSave =>
    have quiet : (getContactMessages p username messageTag decodeAndSave answer.exchange answer.draws files).files = files := by
      unfold Callback.harmless at harmless
      cases answered : answer.exchange with
      | answered response =>
        rw [answered] at harmless
        rw [getContactMessages]
        apply pullLoop_quiet
        intro entry member
        exact Option.isNone_iff_eq_none.mp (List.all_eq_true.mp harmless entry member)
      | _ => rfl
    dsimp only
    rw [quiet]
    exact .refl
  | contactKeys username => exact upkeep_requestPreKeys ..
  | accounts =>
    unfold Callback.harmless at harmless
    cases answered : answer.exchange with
    | answered response =>
      rw [answered] at harmless
      cases harmless
    | _ => exact .refl
  | keysCount =>
    unfold Callback.harmless at harmless
    cases answered : answer.exchange with
    | answered response =>
      rw [answered] at harmless
      have enough : ¬ (p.json.optInt (ServerResponse.getResponseJSONObject p response) "count" 0 ≤ 10 ∧ response.code = 200) := by
        rintro ⟨few, accepted⟩
        simp [few, accepted] at harmless
      simp only [Operation.run, Operation.batch, checkRemotePreKeys, if_neg enough]
      exact .refl
    | _ => exact .refl

structure Untouched (p : Platform) (before after : Files) : Prop where
  histories : ∀ username tag, Component username ∨ before.tree.stat (ProtocolStorage.directory p) = some .dir →
    MessageStorage.getContactMessages p username tag after = MessageStorage.getContactMessages p username tag before
  identity : getIdentityKeyPair p after = getIdentityKeyPair p before
  preKeys : before.Sound → ∀ preKeyId,
    loadPreKey p preKeyId after = none ∨ loadPreKey p preKeyId after = loadPreKey p preKeyId before

theorem ProtocolStorage.Upkeep.readObject_user (upkeep : Upkeep p before after) :
    readObject p .LOCAL_JSON_FILENAME after = readObject p .LOCAL_JSON_FILENAME before := by
  induction upkeep with
  | refl => rfl
  | saveIdentity _ address identityKey ih => exact (readObject_updateObject_of_ne (by decide) ..).trans ih
  | removeIdentity _ address ih => exact (readObject_updateObject_of_ne (by decide) ..).trans ih
  | storeSession _ address record ih => exact (readObject_storeSession_of_ne (by decide) ..).trans ih
  | deleteSession _ address ih => exact (readObject_updateObject_of_ne (by decide) ..).trans ih
  | removePreKey _ preKeyId ih => exact (readObject_updateObject_of_ne (by decide) ..).trans ih

theorem ProtocolStorage.Upkeep.untouched (upkeep : Upkeep p before after) : Untouched p before after where
  histories username tag place := by
    rcases place with single | dir
    · rw [MessageStorage.getContactMessages, (Beside.of_framed upkeep.framed).readHistory_eq single]
      rfl
    · exact MessageStorage.getContactMessages_eq (MessageStorage.readFromStorage_framed upkeep.framed dir ..)
  identity := (getIdentityKeyPair_congr (entry_congr upkeep.readObject_user _)).2
  preKeys sound preKeyId := by
    rw [loadPreKey, loadRecord_eq, loadRecord_eq]
    rcases (upkeep.keepsKeys sound).preKeys (valueOf preKeyId) with gone | same
    · rw [gone]
      exact .inl rfl
    · rw [same]
      exact .inr rfl

def Step.Harmless (p : Platform) (client : Client) : Step verify → Prop
  | .callback index answer => ∀ pending ∈ client.waiting[index]?, pending.stale = true →
      pending.request.harmless p answer client.files = true
  | _ => True

def Step.Resurrects (p : Platform) (client : Client) : Step verify → Prop
  | .callback index answer => (∃ pending ∈ client.waiting[index]?, pending.stale = true) ∧
      ¬ Untouched p client.files (client.step p (.callback index answer)).files
  | _ => False

theorem Client.files_callback {client : Client} {index : Nat} {pending : Pending Callback}
    (waits : client.waiting[index]? = some pending) (answer : Answer verify) :
    (client.step p (.callback index answer)).files = (pending.request.run p answer client.files).2 := by
  rw [Client.step, waits]

theorem Step.Harmless.not_resurrects {client : Client} {step : Step verify} (harmless : step.Harmless p client) :
    ¬ step.Resurrects p client := by
  cases step with
  | callback index answer =>
    rintro ⟨⟨pending, waits, old⟩, touched⟩
    apply touched
    rw [client.files_callback waits]
    exact (pending.request.run_upkeep answer client.files (harmless pending waits old)).untouched
  | _ => exact id

theorem sendPut_history {out : Outgoing} {timestamp : Int} (answer : Answer verify) (filed : Filed p files)
    (single : Component out.username) :
    MessageStorage.getContactMessages p out.username out.messageTag
        ((Callback.sendPut out timestamp).run p answer files).2 =
      MessageStorage.getContactMessages p out.username out.messageTag files ↔
    (Callback.sendPut out timestamp).harmless p answer files = true := by
  unfold Callback.harmless Callback.run
  cases answer.exchange with
  | answered response =>
    dsimp only
    cases staleDevices p response with
    | true => simp
    | false =>
      have added := (logs_storeMessage filed single (sentEntry p out.messageString timestamp files) out.messageTag).2
        out.username out.messageTag single
      simp only [Bool.false_eq_true, if_false, iff_false, saveSentMessage, added]
      intro same
      have lengths := congrArg List.length same
      simp [LogEvent.onto] at lengths
  | _ => simp

theorem accounts_identity (answer : Answer verify) (ready : Ready p files) (coherent : Coherent verify p files)
    (missing : getIdentityKeyPair p files = none) :
    getIdentityKeyPair p (Callback.accounts.run p answer files).2 = none ↔
      Callback.accounts.harmless p answer files = true := by
  unfold Callback.harmless Callback.run
  cases answered : answer.exchange with
  | answered response =>
    obtain ⟨identity, stored, _⟩ := (coherent.registered ready ⟨answer.generated, 0, 100⟩).identityKey
    have made : (Operation.accountAnswered (.answered response) answer.generated).run p files =
        ((⟨answer.generated, 0, 100⟩ : Batch verify).register p files).2 := Operation.batch_run rfl
    simp [made, stored]
  | _ => simp [Operation.run, Operation.batch, missing]

/-- Callbacks from before an erasure bring nothing back in any run in which they are harmless; the reply to a message
    and the reply to a registration do bring something back when they are not. -/
theorem stale_callbacks_resurrect_nothing (p : Platform) :
    (∀ (start : Client) (steps : List (Step verify)),
      (∀ done step, done ++ [step] <+: steps → step.Harmless p (start.steps p done)) →
      ∀ done step, done ++ [step] <+: steps → ¬ step.Resurrects p (start.steps p done)) ∧
    (∀ (client : Client) (index : Nat) (answer : Answer verify) (out : Outgoing) (timestamp : Int) (stale : Bool),
      client.waiting[index]? = some ⟨.sendPut out timestamp, stale⟩ → Filed p client.files → Component out.username →
      (MessageStorage.getContactMessages p out.username out.messageTag (client.step p (.callback index answer)).files =
          MessageStorage.getContactMessages p out.username out.messageTag client.files ↔
        (Callback.sendPut out timestamp).harmless p answer client.files = true)) ∧
    ∀ (client : Client) (index : Nat) (answer : Answer verify) (stale : Bool),
      client.waiting[index]? = some ⟨.accounts, stale⟩ → Ready p client.files → Coherent verify p client.files →
      getIdentityKeyPair p client.files = none →
      (getIdentityKeyPair p (client.step p (.callback index answer)).files = none ↔
        Callback.accounts.harmless p answer client.files = true) := by
  refine ⟨fun start steps harmless done step below => (harmless done step below).not_resurrects,
    fun client index answer out timestamp stale waits filed single => ?_,
    fun client index answer stale waits ready coherent missing => ?_⟩
  · rw [client.files_callback waits]
    exact sendPut_history answer filed single
  · rw [client.files_callback waits]
    exact accounts_identity answer ready coherent missing

section Late

def lateAnswer (exchange : Exchange) : Answer everySignature :=
  ⟨exchange, .ciphertext [1] 2 [], fun _ => .ok [], fun _ => undecryptable, sampleKeys⟩

def fetchThenDelete : Client :=
  Client.steps .plain [Step.getContactMessages "bob" "chat" true, (.deleteContact "bob" : Step everySignature)] ⟨bobFiles "[]", []⟩

theorem Client.steps_nil (client : Client) : client.steps p ([] : List (Step verify)) = client := rfl

theorem late_queue_brings_nothing :
    fetchThenDelete.waiting = [⟨.contactMessages "bob" "chat" true, true⟩] ∧
      ¬ (Step.callback 0 (lateAnswer (.answered bobQueue))).Resurrects .plain fetchThenDelete := by
  have waiting : fetchThenDelete.waiting = [⟨.contactMessages "bob" "chat" true, true⟩] := by decide +kernel
  have quiet : Callback.harmless .plain (lateAnswer (.answered bobQueue)) fetchThenDelete.files (.contactMessages "bob" "chat" true) =
    true := by decide +kernel
  refine ⟨waiting, ?_⟩
  generalize fetchThenDelete = client at waiting quiet
  have brings_nothing := (stale_callbacks_resurrect_nothing .plain).1 client [.callback 0 (lateAnswer (.answered bobQueue))]
    (fun done step below => ?_) [] _ List.prefix_rfl
  · rwa [Client.steps_nil] at brings_nothing
  · obtain ⟨rest, same⟩ := below
    cases done with
    | cons first done => simp at same
    | nil =>
      obtain ⟨rfl, _⟩ := List.cons.inj same
      rw [Client.steps_nil]
      intro pending waits _
      rw [waiting] at waits
      cases waits
      exact quiet

def hello : Outgoing := ⟨"bob", "hi", none, none, "chat", false⟩

/-- The server has the message when the contact is deleted, and has not replied yet. -/
def sendThenDelete : Client :=
  Client.steps .plain [.sendMessage hello, .callback 0 (lateAnswer (.answered ⟨200, none⟩)), .deleteContact "bob"]
    ⟨bobFiles "[]", []⟩

/-- The account is reset before the server has replied to the registration. -/
def registerThenReset : Client :=
  Client.steps .plain [.registerAccount "bob" ⟨7, [1]⟩, (.resetAccount : Step everySignature)] ⟨noFiles, []⟩

theorem files_registerAccount_resetAccount (p : Platform) (username : String) (draw : AccountDraw) (client : Client) :
    (client.steps p [.registerAccount username draw, (.resetAccount : Step verify)]).files =
      RNSignalClientModule.wiped p false (registerAccount p username draw client.files).2 := rfl

theorem late_replies_resurrect :
    (sendThenDelete.waiting = [⟨.sendPut hello 0, true⟩] ∧
      MessageStorage.getContactMessages .plain "bob" "chat" sendThenDelete.files = [] ∧
      (MessageStorage.getContactMessages .plain "bob" "chat"
        (sendThenDelete.step .plain (.callback 0 (lateAnswer (.answered ⟨200, none⟩)))).files).length = 1) ∧
    registerThenReset.waiting = [⟨.accounts, true⟩] ∧ getIdentityKeyPair .plain registerThenReset.files = none ∧
      getIdentityKeyPair .plain
        (registerThenReset.step .plain (.callback 0 (lateAnswer (.answered ⟨200, none⟩)))).files ≠ none := by
  refine ⟨by decide +kernel, ?_⟩
  have waiting : registerThenReset.waiting = [⟨.accounts, true⟩] := by decide +kernel
  have missing : getIdentityKeyPair .plain registerThenReset.files = none := by decide +kernel
  have wiped : registerThenReset.files = RNSignalClientModule.wiped .plain false _ :=
    files_registerAccount_resetAccount .plain "bob" ⟨7, [1]⟩ ⟨noFiles, []⟩
  have named := (registerAccount_updates .plain "bob" ⟨7, [1]⟩ noFiles).framed.ready noFiles_ready
  have ready := @RNSignalClientModule.wiped_ready .plain false _ named
  have empty := @RNSignalClientModule.wiped_empty .plain false (registerAccount .plain "bob" ⟨7, [1]⟩ noFiles).2
  rw [← wiped] at ready
  rw [← wiped] at empty
  refine ⟨waiting, missing, ?_⟩
  generalize registerThenReset = client at waiting missing ready empty
  have waits : client.waiting[0]? = some ⟨.accounts, true⟩ := by rw [waiting]; rfl
  rw [client.files_callback waits, Ne, accounts_identity _ ready (coherent_of_empty empty) missing]
  exact Bool.false_ne_true

end Late
end PillarSignal.Android
