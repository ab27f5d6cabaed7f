import PillarSignal.Android.SendTasks
import PillarSignal.Properties.Promises

namespace PillarSignal.Android

open Storage SignalClient Reaction

variable {verify : Verify} {http : OkHttp} {server : SignalServer} {p : Platform} {out : Outgoing}

namespace SendTask

/-- The step loses the promise: there is no network, the encryption throws what is not caught, or a retry does not come
    to a session, be it that its requests fail, that the answer has no device or that no session can be built from the
    keys of the first one. -/
def Loses (http : OkHttp) (server : SignalServer) (p : Platform) (task : SendTask) (answer : Answer verify) : Prop :=
  match task with
  | timestamp => answer.exchange = .dropped ∨
      ∃ response e, answer.exchange = .answered response ∧ answer.encryption = .throws e ∧ caughtSending e = false
  | put _ => answer.exchange = .dropped
  | keysTimestamp =>
      ¬ ∃ response, answer.exchange = .answered response ∧ http.acceptsHeader server.authorization = true
  | keys => ¬ ∃ responseJSONO device bundle calls, firstDevice p answer.exchange = some (responseJSONO, device) ∧
      parseBundle p responseJSONO device = .ok bundle ∧ answer.process bundle = .ok calls
  | retrySendMessage => False

/-- The step saves the message: its `PUT` is answered, and no device is stale. -/
def Saves (p : Platform) (task : SendTask) (answer : Answer verify) : Prop :=
  ∃ serverTime response, task = put serverTime ∧ answer.exchange = .answered response ∧ staleDevices p response = false

/-- What one step does: it goes on (or comes to nothing) with as many encryptions as puts, it rejects, or it saves the
    message and resolves. Only the last one writes to the histories. -/
inductive Does (p : Platform) (out : Outgoing) (saves : Prop) (state : SendState) (reaction : SendReaction) : Prop where
  | passesOn (times : Nat) (unsaved : ¬ saves) (told : reaction.told = []) (started : reaction.started.length ≤ 1)
      (saved : reaction.state.saved = state.saved) (encrypted : reaction.state.encryptions = state.encryptions + times)
      (put : reaction.state.puts = state.puts + times)
      (upkeep : ProtocolStorage.Upkeep p state.files reaction.state.files)
  | rejects (code : Option PromiseRejectCode) (reason : Reason) (unsaved : ¬ saves) (told : reaction.told = [.reject code reason])
      (started : reaction.started = []) (saved : reaction.state.saved = state.saved)
      (upkeep : ProtocolStorage.Upkeep p state.files reaction.state.files)
  | resolves (value : String) (entry : Json) (saving : saves) (told : reaction.told = [.resolve value]) (started : reaction.started = [])
      (saved : reaction.state.saved = state.saved ++ [⟨entry, state.files⟩])
      (encrypted : reaction.state.encryptions = state.encryptions) (put : reaction.state.puts = state.puts)
      (stored : reaction.state.files = MessageStorage.storeMessage p out.username entry out.messageTag state.files)

theorem timestampAnswered_does {saves : Prop} (unsaved : ¬ saves) (response : Response) (encryption : Encryption)
    (state : SendState) : Does p out saves state (timestampAnswered http server p out response encryption state) := by
  have upkeep := upkeep_prepareApiBody p out encryption state.files
  unfold timestampAnswered
  cases prepared : prepareApiBody p out encryption state.files with
  | mk body files =>
    rw [prepared] at upkeep
    cases body with
    | error e =>
      dsimp only
      split
      · exact .rejects _ _ unsaved rfl rfl rfl upkeep
      · exact .passesOn 0 unsaved rfl (by simp [stopping]) rfl rfl rfl upkeep
    | ok request =>
      dsimp only
      split
      · exact .passesOn 1 unsaved rfl (by simp [starting]) rfl rfl rfl upkeep
      · exact .rejects _ _ unsaved rfl rfl rfl upkeep

theorem keysAnswered_does {saves : Prop} (unsaved : ¬ saves) (rebuild : Rebuild) {state after : SendState}
    (saved : after.saved = state.saved) (encrypted : after.encryptions = state.encryptions)
    (put : after.puts = state.puts) (upkeep : ProtocolStorage.Upkeep p state.files after.files) :
    Does p out saves state (keysAnswered out rebuild after) := by
  by_cases built : rebuild = .built
  · subst built
    exact .passesOn 0 unsaved rfl (by simp [keysAnswered, starting]) saved encrypted put upkeep
  · rcases @keysAnswered_unbuilt out rebuild built after with same | same
    · rw [same]
      exact .passesOn 0 unsaved rfl (by simp [telling]) saved encrypted put upkeep
    · rw [same]
      exact .passesOn 0 unsaved rfl (by simp [stopping]) saved encrypted put upkeep

theorem react_does (state : SendState) (task : SendTask) (answer : Answer verify) :
    Does p out (task.Saves p answer) state (task.react http server p out state answer) := by
  have nothing : ¬ task.Saves p answer → Does p out (task.Saves p answer) state (telling [] state) :=
    fun unsaved => .passesOn 0 unsaved rfl (by simp [telling]) rfl rfl rfl .refl
  cases task with
  | timestamp =>
    have unsaved : ¬ timestamp.Saves p answer := by simp [Saves]
    unfold react
    cases answer.exchange with
    | dropped => exact nothing unsaved
    | failed => exact .rejects _ _ unsaved rfl rfl rfl .refl
    | answered response => exact timestampAnswered_does unsaved ..
  | put timestamp =>
    unfold react
    cases exchanged : answer.exchange with
    | dropped => exact nothing (by simp [Saves, exchanged])
    | failed => exact .rejects _ _ (by simp [Saves, exchanged]) rfl rfl rfl .refl
    | answered response =>
      dsimp only [putAnswered]
      split
      · rename_i stale
        exact .passesOn 0 (by simp [Saves, exchanged, stale]) rfl (by simp [starting]) rfl rfl rfl .refl
      · rename_i fresh
        exact .resolves _ _ (by simp [Saves, exchanged, fresh]) rfl rfl rfl rfl rfl rfl
  | keysTimestamp =>
    have unsaved : ¬ keysTimestamp.Saves p answer := by simp [Saves]
    unfold react
    cases answer.exchange with
    | dropped => exact nothing unsaved
    | failed => exact keysAnswered_does unsaved _ rfl rfl rfl .refl
    | answered response =>
      dsimp only
      split
      · exact .passesOn 0 unsaved rfl (by simp [starting]) rfl rfl rfl .refl
      · exact .passesOn 0 unsaved rfl (by simp [stopping]) rfl rfl rfl .refl
  | keys => exact keysAnswered_does (by simp [Saves]) _ rfl rfl rfl (upkeep_requestPreKeys ..)
  | retrySendMessage => exact .passesOn 0 (by simp [Saves]) rfl (by simp [react, starting]) rfl rfl rfl .refl

theorem react_keeps (state : SendState) (task : SendTask) (answer : Answer verify)
    (kept : ¬ task.Loses http server p answer) :
    (task.react http server p out state answer).stops = false ∧
      (task.react http server p out state answer).told.length +
        Chain.owing (fun _ => 1) (task.react http server p out state answer).started = 1 := by
  cases task with
  | timestamp =>
    simp only [Loses, not_or, not_exists, not_and] at kept
    unfold react
    cases exchanged : answer.exchange with
    | dropped => exact absurd exchanged kept.1
    | failed => exact ⟨rfl, rfl⟩
    | answered response =>
      dsimp only [timestampAnswered, prepareApiBody]
      cases encrypted : answer.encryption with
      | throws e =>
        have caught : caughtSending e = true := by simpa using kept.2 response e exchanged encrypted
        dsimp only
        rw [if_pos caught]
        exact ⟨rfl, rfl⟩
      | ciphertext bytes remoteRegistrationId calls =>
        dsimp only
        split <;> exact ⟨rfl, rfl⟩
  | put serverTime =>
    unfold react
    cases exchanged : answer.exchange with
    | dropped => exact absurd exchanged kept
    | failed => exact ⟨rfl, rfl⟩
    | answered response =>
      dsimp only [putAnswered]
      split <;> exact ⟨rfl, rfl⟩
  | keysTimestamp =>
    obtain ⟨response, exchanged, accepted⟩ := not_not.mp kept
    unfold react
    rw [exchanged]
    dsimp only
    rw [if_pos accepted]
    exact ⟨rfl, rfl⟩
  | keys =>
    have built := (requestPreKeys_built_iff out.username answer.exchange answer.process state.files).mpr (not_not.mp kept)
    unfold react
    dsimp only
    rw [built]
    exact ⟨rfl, rfl⟩
  | retrySendMessage => exact ⟨rfl, rfl⟩

theorem react_loses (state : SendState) (task : SendTask) (answer : Answer verify)
    (loses : task.Loses http server p answer) :
    (task.react http server p out state answer).told = [] ∧ (task.react http server p out state answer).started = [] := by
  have silent : ∀ {rebuild : Rebuild} (after : SendState), rebuild ≠ .built →
      (keysAnswered out rebuild after).told = [] ∧ (keysAnswered out rebuild after).started = [] := by
    intro rebuild after unbuilt
    rcases keysAnswered_unbuilt unbuilt after with same | same <;> rw [same] <;> exact ⟨rfl, rfl⟩
  cases task with
  | timestamp =>
    unfold react
    rcases loses with dropped | ⟨response, e, answered, thrown, uncaught⟩
    · rw [dropped]
      exact ⟨rfl, rfl⟩
    · rw [answered, thrown]
      dsimp only [timestampAnswered, prepareApiBody]
      rw [if_neg (by simp [uncaught])]
      exact ⟨rfl, rfl⟩
  | put serverTime =>
    have dropped : answer.exchange = .dropped := loses
    unfold react
    rw [dropped]
    exact ⟨rfl, rfl⟩
  | keysTimestamp =>
    unfold react
    cases exchanged : answer.exchange with
    | dropped => exact ⟨rfl, rfl⟩
    | failed => exact silent state (by simp)
    | answered response =>
      dsimp only
      rw [if_neg fun accepted => loses ⟨response, exchanged, accepted⟩]
      exact ⟨rfl, rfl⟩
  | keys => exact silent _ ((not_congr (requestPreKeys_built_iff ..)).mpr loses)
  | retrySendMessage => exact absurd loses id

theorem send_ledger (http : OkHttp) (server : SignalServer) (p : Platform) (out : Outgoing) :
    Chain.Ledger (@next verify http server p out) (fun _ => 1) (fun _ => True)
      (fun _ task event => task.Loses http server p event.toAnswer) where
  keeps state task event _ kept := react_keeps { state with files := event.meanwhile state.files } task event.toAnswer kept
  loses state task event _ loses :=
    ⟨(react_loses { state with files := event.meanwhile state.files } task event.toAnswer loses).1,
      (react_loses { state with files := event.meanwhile state.files } task event.toAnswer loses).2, rfl⟩
  starts _ _ _ _ _ _ := trivial

/-- Where a run stands: nothing is settled yet, or the promise is rejected and nothing saved, or it is resolved and one
    entry saved; in between there are as many encryptions as puts. -/
inductive Stands (chain : Chain SendState SendTask Settlement) : Prop where
  | pending (told : chain.told = []) (waiting : chain.waiting.length ≤ 1) (saved : chain.state.saved = [])
      (even : chain.state.encryptions = chain.state.puts)
  | rejected (code : Option PromiseRejectCode) (reason : Reason) (told : chain.told = [.reject code reason])
      (waiting : chain.waiting = []) (saved : chain.state.saved = [])
  | resolved (value : String) (entry : Saved) (told : chain.told = [.resolve value]) (waiting : chain.waiting = [])
      (saved : chain.state.saved = [entry]) (even : chain.state.encryptions = chain.state.puts)

theorem stands_start (files : Files) : Stands (Chain.begun (start http server files)) := by
  unfold start
  split
  · exact .pending rfl (by simp [Chain.begun, starting]) rfl rfl
  · exact .rejected _ _ rfl rfl rfl

theorem eraseIdx_single {tasks : List SendTask} (single : tasks.length ≤ 1) {index : Nat} {task : SendTask}
    (found : tasks[index]? = some task) : tasks.eraseIdx index = [] := by
  obtain ⟨inside, _⟩ := List.getElem?_eq_some_iff.mp found
  apply List.eq_nil_of_length_eq_zero
  rw [List.length_eraseIdx_of_lt inside]
  omega

theorem stands_answer {chain : Chain SendState SendTask Settlement} (stands : Stands chain)
    (event : Nat × Event verify) : Stands (chain.answer (next http server p out) event) := by
  cases found : chain.waiting[event.1]? with
  | none => rwa [Chain.answer_of_none found]
  | some task =>
    cases stands with
    | rejected code reason told waiting saved => simp [waiting] at found
    | resolved value entry told waiting saved even => simp [waiting] at found
    | pending told waiting saved even =>
      have does := @react_does verify http server p out
        { chain.state with files := event.2.meanwhile chain.state.files } task event.2.toAnswer
      change Does p out _ _ (next http server p out chain.state task event.2) at does
      have after : chain.answer (next http server p out) event =
          Chain.begun (next http server p out chain.state task event.2) := by
        simp only [Chain.answer, found, eraseIdx_single waiting found, told, List.nil_append, Chain.begun]
      rw [after]
      generalize next http server p out chain.state task event.2 = reaction at does
      cases does with
      | passesOn times unsaved none_told started same encrypted put upkeep =>
        refine .pending none_told ?_ (same.trans saved) ?_
        · dsimp only [Chain.begun]
          split
          · exact Nat.zero_le 1
          · exact started
        · have encryptions : reaction.state.encryptions = chain.state.encryptions + times := encrypted
          have puts : reaction.state.puts = chain.state.puts + times := put
          change reaction.state.encryptions = reaction.state.puts
          omega
      | rejects code reason unsaved once started same upkeep =>
        exact .rejected code reason once (by simp [Chain.begun, started]) (same.trans saved)
      | resolves value entry saving once started same encrypted put stored =>
        refine .resolved value ⟨entry, event.2.meanwhile chain.state.files⟩ once (by simp [Chain.begun, started])
          (same.trans (by simp [saved])) ?_
        exact encrypted.trans (even.trans put.symm)

theorem stands_run (files : Files) (events : List (Nat × Event verify)) :
    Stands (run http server p out files events) := by
  unfold run
  induction events using List.reverseRecOn with
  | nil => exact stands_start files
  | append_singleton done event ih =>
    rw [Chain.run_snoc]
    exact stands_answer ih event

theorem Stands.told_le_one {chain : Chain SendState SendTask Settlement} (stands : Stands chain) :
    chain.told.length ≤ 1 := by
  cases stands with
  | pending told waiting saved even => simp [told]
  | rejected code reason told waiting saved => simp [told]
  | resolved value entry told waiting saved even => simp [told]

theorem start_owes_one (files : Files) : (Chain.begun (start http server files)).account (fun _ => 1) = 1 := by
  unfold start
  split <;> rfl

variable (http server p out)

def Appended (saved : Saved) : Prop :=
  MessageStorage.getContactMessages p out.username out.messageTag
      (MessageStorage.storeMessage p out.username saved.entry out.messageTag saved.before) =
    MessageStorage.getContactMessages p out.username out.messageTag saved.before ++ [saved.entry]

def StoresOnly (files : Files) (events : List (Nat × Event verify)) : Prop :=
  ∀ done event task, done ++ [event] <+: events → (run http server p out files done).waiting[event.1]? = some task →
    let before := event.2.meanwhile (run http server p out files done).state.files
    ((run http server p out files (done ++ [event])).state.saved = (run http server p out files done).state.saved ∧
      ProtocolStorage.Upkeep p before (run http server p out files (done ++ [event])).state.files) ∨
    ∃ entry, (run http server p out files (done ++ [event])).state.saved =
        (run http server p out files done).state.saved ++ [⟨entry, before⟩] ∧
      (run http server p out files (done ++ [event])).state.files =
        MessageStorage.storeMessage p out.username entry out.messageTag before

/-- What is asked of a message that has been sent as far as it goes. -/
structure SentOnce (files : Files) (events : List (Nat × Event verify)) : Prop where
  once : (run http server p out files events).told.length = 1
  never_twice : ∀ done, done <+: events → (run http server p out files done).told.length ≤ 1
  resolved : ∀ value, .resolve value ∈ (run http server p out files events).told →
    (∃ saved, (run http server p out files events).state.saved = [saved] ∧ Appended p out saved) ∧
      (run http server p out files events).state.encryptions = (run http server p out files events).state.puts
  rejected : ∀ code reason, .reject code reason ∈ (run http server p out files events).told →
    (run http server p out files events).state.saved = []
  stores_only : StoresOnly http server p out files events

def LosesNothing (files : Files) (events : List (Nat × Event verify)) : Prop :=
  ∀ done event task, done ++ [event] <+: events → (run http server p out files done).waiting[event.1]? = some task →
    ¬ task.Loses http server p event.2.toAnswer

def SavesInto (holds : Files → Prop) (files : Files) (events : List (Nat × Event verify)) : Prop :=
  ∀ done event task, done ++ [event] <+: events → (run http server p out files done).waiting[event.1]? = some task →
    task.Saves p event.2.toAnswer → holds (event.2.meanwhile (run http server p out files done).state.files)

variable {http server p out}

theorem readable_of_appended {saved : Saved} (appended : Appended p out saved) :
    MessageStorage.Readable p out.username out.messageTag saved.before := by
  by_contra unreadable
  rw [Appended, MessageStorage.storeMessage_of_unreadable unreadable, MessageStorage.getContactMessages_withContact]
    at appended
  simp at appended

theorem state_snoc {files : Files} {done : List (Nat × Event verify)} {event : Nat × Event verify} {task : SendTask}
    (found : (run http server p out files done).waiting[event.1]? = some task) :
    (run http server p out files (done ++ [event])).state =
      (next http server p out (run http server p out files done).state task event.2).state := by
  unfold run at found ⊢
  rw [Chain.run_snoc]
  simp only [Chain.answer, found]

theorem run_step {files : Files} {done : List (Nat × Event verify)} {event : Nat × Event verify} {task : SendTask}
    (found : (run http server p out files done).waiting[event.1]? = some task) :
    let before := event.2.meanwhile (run http server p out files done).state.files
    let after := (run http server p out files (done ++ [event])).state
    (¬ task.Saves p event.2.toAnswer ∧ after.saved = (run http server p out files done).state.saved ∧
      ProtocolStorage.Upkeep p before after.files) ∨
    ∃ entry, task.Saves p event.2.toAnswer ∧
      after.saved = (run http server p out files done).state.saved ++ [⟨entry, before⟩] ∧
      after.files = MessageStorage.storeMessage p out.username entry out.messageTag before := by
  intro before after
  have does := @react_does verify http server p out
    { (run http server p out files done).state with files := before } task event.2.toAnswer
  rw [show after = _ from state_snoc found]
  change Does p out _ _ (next http server p out (run http server p out files done).state task event.2) at does
  cases does with
  | passesOn times unsaved none_told started same encrypted put upkeep => exact .inl ⟨unsaved, same, upkeep⟩
  | rejects code reason unsaved once started same upkeep => exact .inl ⟨unsaved, same, upkeep⟩
  | resolves value entry saving once started same encrypted put stored => exact .inr ⟨entry, saving, same, stored⟩

theorem run_stores_only (files : Files) (events : List (Nat × Event verify)) :
    StoresOnly http server p out files events := by
  intro done event task _ found before
  rcases run_step found with ⟨_, same, upkeep⟩ | ⟨entry, _, same, stored⟩
  · exact .inl ⟨same, upkeep⟩
  · exact .inr ⟨entry, same, stored⟩

theorem run_snoc_of_none {files : Files} {done : List (Nat × Event verify)} {event : Nat × Event verify}
    (found : (run http server p out files done).waiting[event.1]? = none) :
    run http server p out files (done ++ [event]) = run http server p out files done := by
  unfold run at found ⊢
  rw [Chain.run_snoc, Chain.answer_of_none found]

theorem saved_of_savesInto {holds : Files → Prop} {files : Files} {events : List (Nat × Event verify)}
    (into : SavesInto http server p out holds files events) {saved : Saved}
    (member : saved ∈ (run http server p out files events).state.saved) : holds saved.before := by
  induction events using List.reverseRecOn with
  | nil =>
    rw [show (run http server p out files ([] : List (Nat × Event verify))).state.saved = [] by
      unfold run start
      split <;> rfl] at member
    cases member
  | append_singleton done event ih =>
    have earlier : SavesInto http server p out holds files done :=
      fun first next task below => into first next task (below.trans (List.prefix_append ..))
    cases found : (run http server p out files done).waiting[event.1]? with
    | none =>
      rw [run_snoc_of_none found] at member
      exact ih earlier member
    | some task =>
      rcases run_step found with ⟨_, same, _⟩ | ⟨entry, saving, same, _⟩
      · rw [same] at member
        exact ih earlier member
      · rw [same] at member
        rcases List.mem_append.mp member with member | member
        · exact ih earlier member
        · cases List.mem_singleton.mp member
          exact into done event task List.prefix_rfl found saving

theorem saved_of_step {files : Files} {done events : List (Nat × Event verify)} (below : done <+: events) {saved : Saved}
    (member : saved ∈ (run http server p out files done).state.saved) :
    saved ∈ (run http server p out files events).state.saved := by
  obtain ⟨more, rfl⟩ := below
  induction more using List.reverseRecOn with
  | nil => rwa [List.append_nil]
  | append_singleton more event ih =>
    rw [← List.append_assoc]
    cases found : (run http server p out files (done ++ more)).waiting[event.1]? with
    | none => rwa [run_snoc_of_none found]
    | some task =>
      rcases run_step found with ⟨_, same, _⟩ | ⟨entry, _, same, _⟩
      · rwa [same]
      · rw [same]
        exact List.mem_append_left _ ih

theorem sentOnce_iff {files : Files} {events : List (Nat × Event verify)}
    (finished : (run http server p out files events).waiting = []) :
    SentOnce http server p out files events ↔ LosesNothing http server p out files events ∧
      ∀ saved ∈ (run http server p out files events).state.saved, Appended p out saved := by
  have fit : ∀ task ∈ (Chain.begun (start http server files)).waiting, True := fun _ _ => trivial
  have once : (run http server p out files events).told.length = 1 ↔ LosesNothing http server p out files events :=
    (@send_ledger verify http server p out).told_once_iff fit (start_owes_one files) events finished
  have stands := @stands_run verify http server p out files events
  constructor
  · intro sent
    refine ⟨once.mp sent.once, fun entry member => ?_⟩
    cases stands with
    | pending told waiting saved even => simp [saved] at member
    | rejected code reason told waiting saved => simp [saved] at member
    | resolved value only told waiting saved even =>
      obtain ⟨⟨stored, same, appended⟩, _⟩ := sent.resolved value (by simp [told])
      rw [same] at member
      rwa [List.mem_singleton.mp member]
  · intro ⟨kept, appended⟩
    refine ⟨once.mpr kept, fun done _ => ?_, fun value told => ?_, fun code reason told => ?_,
      run_stores_only files events⟩
    · exact (stands_run files done).told_le_one
    · cases stands with
      | pending none_told waiting saved even => simp [none_told] at told
      | rejected code reason rejected waiting saved => simp [rejected] at told
      | resolved value only resolved waiting saved even => exact ⟨⟨only, saved, appended only (by simp [saved])⟩, even⟩
    · cases stands with
      | pending none_told waiting saved even => exact saved
      | rejected code reason rejected waiting saved => exact saved
      | resolved value only resolved waiting saved even => simp [resolved] at told

/-- A message that is sent as far as it goes settles its promise exactly once, and with it goes one entry of the history
    or none, if no step loses the promise and the history can take the entry when it is saved. It has to be a history at
    least, and no step may lose the promise. -/
theorem message_is_sent_once (http : OkHttp) (server : SignalServer) (p : Platform) (out : Outgoing) (files : Files)
    (events : List (Nat × Event verify)) (finished : (run http server p out files events).waiting = []) :
    (LosesNothing http server p out files events →
      SavesInto http server p out (MessageStorage.Storable p out.username out.messageTag) files events →
      SentOnce http server p out files events) ∧
    (SentOnce http server p out files events → LosesNothing http server p out files events ∧
      SavesInto http server p out (MessageStorage.Readable p out.username out.messageTag) files events) := by
  constructor
  · intro kept storable
    refine (sentOnce_iff finished).mpr ⟨kept, fun saved member => ?_⟩
    exact (saved_of_savesInto storable member).appended saved.entry
  · intro sent
    obtain ⟨kept, appended⟩ := (sentOnce_iff finished).mp sent
    refine ⟨kept, fun done event task below found saving => ?_⟩
    rcases run_step found with ⟨unsaved, _⟩ | ⟨entry, _, same, _⟩
    · exact absurd saving unsaved
    · have stored : (⟨entry, event.2.meanwhile (run http server p out files done).state.files⟩ : Saved) ∈
          (run http server p out files (done ++ [event])).state.saved := by
        rw [same]
        exact List.mem_append_right _ (List.mem_singleton_self _)
      exact readable_of_appended (appended _ (saved_of_step below stored))

section Stale

open Method (lenient)

def signalServer : SignalServer := ⟨"https://signal", "token"⟩

def greeting : Outgoing := ⟨"bob", "hi", none, none, "chat", false⟩

def replies (code : Nat) (text : List Char) : Nat × Event everySignature :=
  (0, { Method.exchanged (.answered ⟨code, some text⟩) with
    encryption := .ciphertext [1] 1 [], process := fun _ => .ok [] })

def accepted : List Char := "\x7b\x7d".toList

def staleText : List Char := "\x7b\"staleDevices\":[1]\x7d".toList

/-- The devices of the contact are stale, its keys are renewed, and the message is sent again and accepted. -/
def staleOnce : List (Nat × Event everySignature) :=
  [replies 200 accepted, replies 410 staleText, replies 200 accepted, replies 200 (Plain.keysAnswer Plain.bobDevice),
    replies 200 accepted, replies 200 accepted, replies 200 accepted]

theorem staleOnce_steps :
    (List.range 8).map (fun i => (run lenient signalServer .plain greeting (bobFiles "[]") (staleOnce.take i)).waiting) =
      [[timestamp], [put 0], [keysTimestamp], [keys], [retrySendMessage], [timestamp], [put 0], []] ∧
    let before := (run lenient signalServer .plain greeting (bobFiles "[]") (staleOnce.take 6)).state.files
    (MessageStorage.withContact .plain "bob" before).tree.resolve [] (MessageStorage.fileNames "bob" .messages) =
        some ["messages.json", "bob", "messages"] ∧
      (MessageStorage.withContact .plain "bob" before).tree.stat ["messages.json", "bob", "messages"] ≠ some .dir ∧
      before.outcomes ["messages.json", "bob", "messages"] = [] ∧
      MessageStorage.readHistory .plain "bob" .messages (MessageStorage.withContact .plain "bob" before) = .ok [] := by
  decide +kernel

theorem retried_greeting_is_sent_once :
    SentOnce lenient signalServer .plain greeting (bobFiles "[]") staleOnce := by
  obtain ⟨tasks, place, leaf, queued, readable⟩ := staleOnce_steps
  have waits (i : Nat) (small : i < 8) := eq_getD_of_map_range tasks [] small
  have finished := waits 7 (by decide)
  rw [List.take_of_length_le (by decide)] at finished
  have size : staleOnce.length = 7 := rfl
  apply (message_is_sent_once lenient signalServer .plain greeting (bobFiles "[]") staleOnce finished).1
  · intro done event task below found loses
    obtain ⟨i, short, rfl, occurs⟩ := snoc_prefix_take below
    rw [waits i (by omega)] at found
    clear below
    have places : i = 0 ∨ i = 1 ∨ i = 2 ∨ i = 3 ∨ i = 4 ∨ i = 5 ∨ i = 6 := by omega
    rcases places with rfl | rfl | rfl | rfl | rfl | rfl | rfl <;> cases occurs <;> cases found
    · rcases loses with dropped | ⟨_, _, _, thrown, _⟩
      · cases dropped
      · cases thrown
    · cases loses
    · exact loses ⟨_, rfl, rfl⟩
    · apply loses
      refine (requestPreKeys_built_iff "bob" _ (fun _ => .ok []) noFiles).mp ?_
      decide +kernel
    · exact loses
    · rcases loses with dropped | ⟨_, _, _, thrown, _⟩
      · cases dropped
      · cases thrown
    · cases loses
  · intro done event task below found saving
    obtain ⟨i, short, rfl, occurs⟩ := snoc_prefix_take below
    rw [waits i (by omega)] at found
    clear below
    obtain ⟨serverTime, response, rfl, answered, fresh⟩ := saving
    have places : i = 0 ∨ i = 1 ∨ i = 2 ∨ i = 3 ∨ i = 4 ∨ i = 5 ∨ i = 6 := by omega
    rcases places with rfl | rfl | rfl | rfl | rfl | rfl | rfl <;> cases occurs <;> cases found
    · -- the first answer names stale devices
      cases answered
      have stale : staleDevices .plain ⟨410, some staleText⟩ = true := by decide +kernel
      cases stale.symm.trans fresh
    · generalize (run lenient signalServer .plain greeting (bobFiles "[]") (staleOnce.take 6)).state.files = before at *
      show MessageStorage.Storable .plain "bob" "chat" before
      exact ⟨⟨_, ⟨place, leaf⟩, by simp [Disk.NextWritten, queued]⟩, [], readable⟩

def untilKeys (text : String) : List (Nat × Event everySignature) :=
  [replies 200 accepted, replies 200 staleText, replies 200 accepted, replies 200 text.toList]

/-- The devices of the contact are stale, and then it has no device or one without keys: the promise is never settled. -/
theorem stale_device_loses_the_promise :
    (run lenient signalServer .plain greeting noFiles (untilKeys "\x7b\"devices\":[]\x7d")).waiting = [] ∧
      (run lenient signalServer .plain greeting noFiles (untilKeys "\x7b\"devices\":[]\x7d")).told = [] ∧
      (run lenient signalServer .plain greeting noFiles (untilKeys "\x7b\"devices\":[\x7b\x7d]\x7d")).waiting = [] ∧
      (run lenient signalServer .plain greeting noFiles (untilKeys "\x7b\"devices\":[\x7b\x7d]\x7d")).told = [] := by
  decide +kernel

end Stale
end SendTask
end PillarSignal.Android
