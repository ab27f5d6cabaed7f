import PillarSignal.Properties.Escapes

namespace PillarSignal.Android

open Storage SignalClient Reaction

variable {verify : Verify}

/-- The callback for an answer ends in an exception that nothing catches: the pre keys have to be refilled and a stored
    one has an id that is no number, a key of the contact breaks the Base64 or the session cannot be built from it, or
    the loop over the queue comes to an entry that it is not prepared for. -/
def Request.Escapes (p : Platform) (response : Response) (answer : Answer verify) (files : Files) : Request → Prop
  | .keysCount => p.json.optInt (ServerResponse.getResponseJSONObject p response) "count" 0 ≤ 10 ∧ response.code = 200 ∧
      StrayId p files
  | .contactKeys _ => ∃ responseJSONO device, firstDevice p (.answered response) = some (responseJSONO, device) ∧
      (BundleBreaks p responseJSONO device ∨ ∃ bundle, parseBundle p responseJSONO device = .ok bundle ∧
        Uncaught caughtRebuilding (answer.process bundle))
  | .contactMessages username messageTag decodeAndSave =>
      Comes p username messageTag decodeAndSave answer.draws (EntryEscapes p username messageTag decodeAndSave) 0
        (queueOf p response) files
  | _ => False

/-- A task comes to nothing: there is no network, a `DELETE` fails, or an exception ends the app. -/
def Task.Loses (http : OkHttp) (server : SignalServer) (p : Platform) (files : Files) (task : Task)
    (answer : Answer verify) : Prop :=
  match answer.exchange with
  | .dropped => task.owed = 1
  | .failed => ∃ url, task = .timestamp (.delete url true) ∨ task = .reply (.delete url true)
  | .answered response =>
    match task with
    | .timestamp _ => http.acceptsHeader server.authorization = false
    | .reply request => request.Escapes p response answer files

def Task.Fits (http : OkHttp) (server : SignalServer) : Task → Prop
  | .timestamp request => http.acceptsHeader server.authorization = true ∨ request.owed = 1
  | .reply _ => http.acceptsHeader server.authorization = true

section Ledger

variable {http : OkHttp} {server : SignalServer} {p : Platform}

theorem owing_deleting (urls : List String) : Chain.owing Task.owed (deleting urls) = 0 := by
  apply Chain.owing_eq_zero
  intro task member
  obtain ⟨url, _, rfl⟩ := List.mem_map.mp member
  rfl

theorem Request.failed_keeps (files : Files) (request : Request) (kept : ∀ url, request ≠ .delete url true) :
    (request.failed files).stops = false ∧
      (request.failed files).told.length + Chain.owing Task.owed (request.failed files).started = request.owed := by
  cases request with
  | delete url promise =>
    cases promise with
    | true => exact absurd rfl (kept url)
    | false => exact ⟨rfl, rfl⟩
  | _ => exact ⟨rfl, rfl⟩

theorem checkRemotePreKeys_escaped_iff (response : Response) (files : Files) :
    (∃ e, checkRemotePreKeys p (.answered response) files = .escaped e) ↔
      p.json.optInt (ServerResponse.getResponseJSONObject p response) "count" 0 ≤ 10 ∧ response.code = 200 ∧
        StrayId p files := by
  rw [← getLastPreKeyIndex_error_iff]
  unfold checkRemotePreKeys
  dsimp only
  rw [← and_assoc]
  split
  · rename_i low
    cases ProtocolStorage.getLastPreKeyIndex p files <;> simp [low]
  · rename_i high
    simp [high]

theorem checkRemotePreKeys_ne_waiting (response : Response) (files : Files) :
    checkRemotePreKeys p (.answered response) files ≠ .waiting := by
  unfold checkRemotePreKeys
  dsimp only
  split
  · cases ProtocolStorage.getLastPreKeyIndex p files <;> simp
  · simp

theorem requestPreKeys_ne_waiting (username : String) (response : Response) (process : Process) (files : Files) :
    (requestPreKeys p username (.answered response) process files).1 ≠ .waiting := by
  unfold requestPreKeys
  dsimp only
  split
  · simp
  · split
    · simp
    · simp
    · unfold rebuildSession
      dsimp only
      split <;> simp
    · simp

theorem Rebuild.settle_promised (username : String) (rebuild : Rebuild) (answered : rebuild ≠ .waiting) :
    (∃ settlement, rebuild.settle username true = .ok (some settlement)) ∨
      ∃ e, rebuild = .failed e ∧ caughtRebuilding e = false ∧ rebuild.settle username true = .error e := by
  cases rebuild with
  | waiting => exact absurd rfl answered
  | failed e =>
    cases caught : caughtRebuilding e with
    | true => exact .inl ⟨nativeFailed e, by simp [Rebuild.settle, caught]⟩
    | false => exact .inr ⟨e, rfl, caught, by simp [Rebuild.settle, caught]⟩
  | _ => exact .inl ⟨_, rfl⟩

theorem Request.answered_keeps (response : Response) (answer : Answer verify) (files : Files) (request : Request)
    (kept : ¬ request.Escapes p response answer files) :
    (request.answered p response answer files).stops = false ∧
      (request.answered p response answer files).told.length +
        Chain.owing Task.owed (request.answered p response answer files).started = request.owed := by
  cases request with
  | keysCount =>
    have checked := (not_congr (@checkRemotePreKeys_escaped_iff p response files)).mpr kept
    have answered := @checkRemotePreKeys_ne_waiting p response files
    unfold Request.answered
    cases same : checkRemotePreKeys p (.answered response) files with
    | settled settlement => exact ⟨rfl, rfl⟩
    | refill start count => exact ⟨rfl, rfl⟩
    | escaped e => exact absurd ⟨e, same⟩ checked
    | waiting => exact absurd same answered
  | contactKeys username =>
    unfold Request.answered
    dsimp only
    rcases Rebuild.settle_promised username _ (@requestPreKeys_ne_waiting p username response answer.process files) with
      ⟨settlement, settled⟩ | ⟨e, failed, uncaught, _⟩
    · rw [settled]
      exact ⟨rfl, rfl⟩
    · exact absurd ((requestPreKeys_uncaught_iff username response answer.process files).mp ⟨e, failed, uncaught⟩) kept
  | contactMessages username messageTag decodeAndSave =>
    unfold Request.answered
    dsimp only
    cases settled : (getContactMessages p username messageTag decodeAndSave (.answered response) answer.draws
        files).settlement with
    | none => exact absurd ((getContactMessages_unsettled_iff ..).mp settled) kept
    | some settlement => exact ⟨rfl, by simp [owing_deleting, Request.owed]⟩
  | pendingMessages username messageTag =>
    exact ⟨rfl, by simp [Request.answered, owing_deleting, Request.owed]⟩
  | delete url promise => cases promise <;> exact ⟨rfl, rfl⟩
  | _ => exact ⟨rfl, rfl⟩

theorem Request.answered_loses (response : Response) (answer : Answer verify) (files : Files) (request : Request)
    (escapes : request.Escapes p response answer files) :
    (request.answered p response answer files).told = [] ∧ (request.answered p response answer files).started = [] ∧
      request.owed = 1 := by
  cases request with
  | keysCount =>
    obtain ⟨e, checked⟩ := checkRemotePreKeys_escaped_iff response files |>.mpr escapes
    unfold Request.answered
    rw [checked]
    exact ⟨rfl, rfl, rfl⟩
  | contactKeys username =>
    obtain ⟨e, failed, uncaught⟩ := (requestPreKeys_uncaught_iff username response answer.process files).mpr escapes
    unfold Request.answered
    dsimp only
    have thrown : (Rebuild.failed e).settle username true = .error e := by simp [Rebuild.settle, uncaught]
    rw [failed, thrown]
    exact ⟨rfl, rfl, rfl⟩
  | contactMessages username messageTag decodeAndSave =>
    have none_settled : (getContactMessages p username messageTag decodeAndSave (.answered response) answer.draws
        files).settlement = none := (getContactMessages_unsettled_iff ..).mpr escapes
    unfold Request.answered
    dsimp only
    rw [none_settled]
    exact ⟨rfl, rfl, rfl⟩
  | _ => exact absurd escapes id

theorem Task.react_keeps (files : Files) (task : Task) (answer : Answer verify)
    (kept : ¬ task.Loses http server p files answer) :
    (task.react http server p files answer).stops = false ∧
      (task.react http server p files answer).told.length +
        Chain.owing Task.owed (task.react http server p files answer).started = task.owed := by
  unfold Task.Loses at kept
  unfold Task.react
  cases exchanged : answer.exchange with
  | dropped =>
    simp only [exchanged] at kept
    have none_owed : task.owed = 0 := by
      cases task with
      | timestamp request | reply request =>
        cases request with
        | delete url promise =>
          cases promise with
          | true => exact absurd rfl kept
          | false => rfl
        | _ => exact absurd rfl kept
    exact ⟨rfl, none_owed.symm⟩
  | failed =>
    simp only [exchanged] at kept
    cases task with
    | timestamp request =>
      exact request.failed_keeps files fun url same => kept ⟨url, .inl (congrArg Task.timestamp same)⟩
    | reply request =>
      exact request.failed_keeps files fun url same => kept ⟨url, .inr (congrArg Task.reply same)⟩
  | answered response =>
    simp only [exchanged] at kept
    cases task with
    | timestamp request =>
      dsimp only at kept ⊢
      rw [if_pos (by simpa using kept)]
      exact ⟨rfl, by simp [starting, Task.owed]⟩
    | reply request => exact request.answered_keeps response answer files kept

theorem Task.react_loses (files : Files) (task : Task) (answer : Answer verify) (fits : task.Fits http server)
    (loses : task.Loses http server p files answer) :
    (task.react http server p files answer).told = [] ∧ (task.react http server p files answer).started = [] ∧
      task.owed = 1 := by
  unfold Task.Loses at loses
  unfold Task.react
  cases exchanged : answer.exchange with
  | dropped =>
    simp only [exchanged] at loses
    exact ⟨rfl, rfl, loses⟩
  | failed =>
    simp only [exchanged] at loses
    obtain ⟨url, rfl | rfl⟩ := loses <;> exact ⟨rfl, rfl, rfl⟩
  | answered response =>
    simp only [exchanged] at loses
    cases task with
    | timestamp request =>
      have refused : http.acceptsHeader server.authorization = false := loses
      dsimp only
      rw [if_neg (by simp [refused])]
      exact ⟨rfl, rfl, fits.resolve_left (by simp [refused])⟩
    | reply request => exact request.answered_loses response answer files loses

theorem Request.answered_starts (response : Response) (answer : Answer verify) (files : Files) (request : Request)
    {next : Task} (member : next ∈ (request.answered p response answer files).started) :
    ∃ later, next = .timestamp later := by
  have from_deleting : ∀ {urls : List String}, next ∈ deleting urls → ∃ later, next = .timestamp later := by
    intro urls listed
    obtain ⟨url, _, rfl⟩ := List.mem_map.mp listed
    exact ⟨_, rfl⟩
  cases request with
  | keysCount =>
    unfold Request.answered at member
    cases same : checkRemotePreKeys p (.answered response) files with
    | refill start count =>
      simp only [same] at member
      exact ⟨_, List.mem_singleton.mp member⟩
    | _ =>
      simp only [same] at member
      cases member
  | accounts => exact ⟨_, List.mem_singleton.mp member⟩
  | contactKeys username =>
    unfold Request.answered at member
    dsimp only at member
    split at member <;> cases member
  | contactMessages username messageTag decodeAndSave =>
    unfold Request.answered at member
    dsimp only at member
    split at member
    · exact from_deleting member
    · cases member
  | pendingMessages username messageTag => exact from_deleting member
  | _ => cases member

theorem Task.react_starts (files : Files) (task : Task) (answer : Answer verify) (fits : task.Fits http server)
    {next : Task} (member : next ∈ (task.react http server p files answer).started) : next.Fits http server := by
  unfold Task.react at member
  cases exchanged : answer.exchange with
  | dropped =>
    simp only [exchanged] at member
    cases member
  | failed =>
    simp only [exchanged] at member
    cases task with
    | timestamp request | reply request => cases request <;> cases member
  | answered response =>
    simp only [exchanged] at member
    cases task with
    | timestamp request =>
      dsimp only at member
      split at member
      · rename_i accepted
        cases List.mem_singleton.mp member
        exact accepted
      · cases member
    | reply request =>
      obtain ⟨later, rfl⟩ := request.answered_starts response answer files member
      exact .inl fits

theorem task_ledger (http : OkHttp) (server : SignalServer) (p : Platform) :
    Chain.Ledger (@Task.next verify http server p) Task.owed (Task.Fits http server)
      (fun files task event => task.Loses http server p (event.meanwhile files) event.toAnswer) where
  keeps files task event _ kept := task.react_keeps (event.meanwhile files) event.toAnswer kept
  loses files task event fits loses := task.react_loses (event.meanwhile files) event.toAnswer fits loses
  starts files task event fits _ member := task.react_starts (event.meanwhile files) event.toAnswer fits member

end Ledger

namespace Method

variable (http : OkHttp) (p : Platform) (ciphers : Ciphers) (module : RNSignalClientModule)

/-- The method itself throws what nothing catches: it is called before `init`, with members of `params` missing, under
    a host that no URL can have, with a text or a key that it is not prepared for, or the encryption or decryption throws
    what the method does not expect. -/
def Escapes : Method → Prop
  | prepareApiBody params encryption => Uncaught caughtSending params ∨ ((∃ out, params = .ok out) ∧
      (module.signalClient = none ∨ ∃ e, encryption = .throws e ∧ caughtSending e = false))
  | saveSentMessage _ params => (∃ e, params = .error e) ∨ module.signalClient = none
  | decryptReceivedBody receivedBody =>
      ¬ LegacyMessage.Settles p ciphers receivedBody (ProtocolStorage.getSignalingKey p module.files)
  | decryptSignalMessage _ receivedMessage draw => module.signalClient = none ∨ PushEscapes p receivedMessage draw module.files
  | deleteSignalMessage _ _ => ∀ server ∈ module.signalClient, http.acceptsHost server.host = false
  | _ => False

/-- The promise is settled and handed on as well. -/
def SettlesEarly : Method → Prop
  | deleteContact _ => ∃ server ∈ module.signalClient, http.acceptsHost server.host = true
  | _ => False

def Leaves (settlements requests : Nat) (reaction : TaskReaction) : Prop :=
  reaction.stops = false ∧ reaction.told.length = settlements ∧ Chain.owing Task.owed reaction.started = requests ∧
    ∀ task ∈ reaction.started, ∃ request, task = .timestamp request ∧ request.owed = 1

def LeavesOne (reaction : TaskReaction) : Prop := Leaves 1 0 reaction ∨ Leaves 0 1 reaction

variable {http p ciphers module}

theorem leaves_telling (settlement : Settlement) (files : Files) : LeavesOne (telling [settlement] files) :=
  .inl ⟨rfl, rfl, rfl, by simp [telling]⟩

theorem leaves_settled (settlement : Settlement) (files : Files) : LeavesOne (rejecting (settled settlement) files) :=
  .inl ⟨rfl, rfl, rfl, by simp [rejecting, settled]⟩

theorem call_cases (request : Request) (client : Option SignalServer) :
    (∃ e, SignalServer.call http request client = .error e ∧ ∀ server ∈ client, http.acceptsHost server.host = false) ∨
      ∃ server ∈ client, http.acceptsHost server.host = true ∧
        SignalServer.call http request client = .ok ([.timestamp request], []) := by
  cases client with
  | none => exact .inl ⟨.nullPointer, rfl, by simp⟩
  | some server =>
    cases accepted : http.acceptsHost server.host with
    | true => exact .inr ⟨server, rfl, accepted, by simp [SignalServer.call, accepted]⟩
    | false => exact .inl ⟨.illegalArgument, by simp [SignalServer.call, accepted], by simp [accepted]⟩

theorem leaves_call {request : Request} (owed : request.owed = 1) (client : Option SignalServer) (files : Files) :
    LeavesOne (rejecting (SignalServer.call http request client) files) := by
  rcases @call_cases http request client with ⟨e, thrown, _⟩ | ⟨server, _, _, called⟩
  · rw [thrown]
    exact leaves_telling ..
  · rw [called]
    refine .inr ⟨rfl, rfl, by simp [rejecting, Task.owed, owed], fun task member => ?_⟩
    exact ⟨request, List.mem_singleton.mp member, owed⟩

theorem owed_accountRequest (request : AccountRequest) : request.request.owed = 1 := by
  cases request <;> rfl

theorem leaves_rejecting {α : Type} (result : Except Thrown α) (settle : α → Settlement) (files : Files) :
    LeavesOne (rejecting (result.bind fun value => settled (settle value)) files) := by
  cases result with
  | error e => exact leaves_telling ..
  | ok value => exact leaves_settled ..

theorem leaves_rejectingOnly {α : Type} {caught : Thrown → Bool} {result : Except Thrown α}
    (returns : ¬ Uncaught caught result) (settle : α → Settlement) (files : Files) :
    LeavesOne (rejectingOnly caught (result.bind fun value => settled (settle value)) files) := by
  cases result with
  | ok value => exact leaves_telling ..
  | error e =>
    cases known : caught e with
    | true => simpa [rejectingOnly, Except.bind, known] using leaves_telling ..
    | false => exact absurd ⟨e, rfl, known⟩ returns

theorem rejectingOnly_escapes {α : Type} {caught : Thrown → Bool} {result : Except Thrown α}
    (escapes : Uncaught caught result) (settle : α → Settlement) (files : Files) :
    rejectingOnly caught (result.bind fun value => settled (settle value)) files = stopping files := by
  obtain ⟨e, rfl, uncaught⟩ := escapes
  simp [rejectingOnly, Except.bind, uncaught]

theorem prepareApiBody_uncaught_iff (client : Option SignalServer) (params : Except Thrown Outgoing)
    (encryption : Encryption) (files : Files) :
    Uncaught caughtSending (RNSignalClientModule.prepareApiBody p client params encryption files).1 ↔
      Uncaught caughtSending params ∨ ((∃ out, params = .ok out) ∧
        (client = none ∨ ∃ e, encryption = .throws e ∧ caughtSending e = false)) := by
  cases params with
  | error e => simp [RNSignalClientModule.prepareApiBody]
  | ok out =>
    cases client with
    | none => simp [RNSignalClientModule.prepareApiBody, caughtSending]
    | some server =>
      cases encryption with
      | ciphertext bytes remoteRegistrationId calls =>
        simp [RNSignalClientModule.prepareApiBody, SignalClient.prepareApiBody]
      | throws e => simp [RNSignalClientModule.prepareApiBody, SignalClient.prepareApiBody]

theorem leaves_addContact (params : ContactParams) (forceAdd : Bool) :
    LeavesOne ((addContact params forceAdd).start http p ciphers module) := by
  rw [start]
  cases params.username with
  | error e => exact leaves_telling ..
  | ok username =>
    by_cases asks : (!ProtocolStorage.containsSession p ⟨username, 1⟩ module.files || forceAdd) = true
    · cases read : params.userIds with
      | error e => simpa [bind, Except.bind, asks, rejecting] using leaves_telling ..
      | ok userIds =>
        have called := @leaves_call http (.contactKeys username) rfl module.signalClient module.files
        simpa [bind, Except.bind, asks] using called
    · simpa [bind, Except.bind, asks] using leaves_settled ..

theorem start_leaves_one (method : Method) (returns : ¬ method.Escapes http p ciphers module)
    (late : ¬ method.SettlesEarly http module) : LeavesOne (method.start http p ciphers module) := by
  cases method with
  | init config draw =>
    rw [start]
    cases RNSignalClientModule.init p config draw module.files with
    | mk initialised files =>
      cases initialised with
      | rejected code reason => exact leaves_telling ..
      | checking => exact leaves_call rfl ..
      | registering request => exact leaves_call (owed_accountRequest request) ..
  | registerAccount draw =>
    rw [start]
    cases module.signalClient with
    | none => exact leaves_telling ..
    | some server => exact leaves_call (owed_accountRequest _) ..
  | resetAccount => exact leaves_settled ..
  | addContact params forceAdd => exact leaves_addContact params forceAdd
  | deleteContact username =>
    rw [start]
    rcases @call_cases http (.pendingMessages username "*") module.signalClient with
      ⟨e, thrown, _⟩ | ⟨server, known, accepted, _⟩
    · rw [thrown]
      exact leaves_telling ..
    · exact absurd ⟨server, known, accepted⟩ late
  | deleteContactMessages username tag => exact leaves_call rfl ..
  | receiveNewMessagesByContact username tag => exact leaves_call rfl ..
  | getMessagesByContact username tag => exact leaves_rejecting ..
  | getUnreadMessagesCount tag => exact leaves_call rfl ..
  | getExistingMessages tag => exact leaves_settled ..
  | setFcmId fcmId =>
    rw [start]
    cases module.signalClient with
    | none => exact leaves_telling ..
    | some server =>
      dsimp only
      split
      · exact leaves_call rfl ..
      · exact leaves_settled ..
  | prepareApiBody params encryption =>
    apply leaves_rejectingOnly
    exact (not_congr (prepareApiBody_uncaught_iff ..)).mpr returns
  | saveSentMessage tag params =>
    cases params with
    | error e => exact absurd (.inl ⟨e, rfl⟩) returns
    | ok sent =>
      rw [start]
      cases known : module.signalClient with
      | none => exact absurd (.inr known) returns
      | some server => exact leaves_telling ..
  | decryptReceivedBody receivedBody =>
    apply leaves_rejectingOnly
    exact (LegacyMessage.decryptReceivedBody_settles_iff receivedBody module.files).mpr (not_not.mp returns)
  | decryptSignalMessage tag receivedMessage draw =>
    rw [start]
    rw [Escapes] at returns
    cases known : module.signalClient with
    | none => exact absurd (.inl known) returns
    | some server =>
      dsimp only
      cases settled : (SignalClient.decryptSignalMessage p tag receivedMessage draw module.files).settlement with
      | none => exact absurd (.inr ((decryptSignalMessage_unsettled_iff ..).mp settled)) returns
      | some settlement => exact leaves_telling ..
  | deleteSignalMessage username timestamp =>
    rw [start]
    rw [Escapes] at returns
    rcases @call_cases http (.delete (deleteUrl username timestamp) true) module.signalClient with
      ⟨e, _, refused⟩ | ⟨server, _, _, called⟩
    · exact absurd refused returns
    · rw [called]
      refine .inr ⟨rfl, rfl, rfl, fun task member => ?_⟩
      exact ⟨_, List.mem_singleton.mp member, rfl⟩

theorem start_escapes (method : Method) (escapes : method.Escapes http p ciphers module) :
    ∃ files, method.start http p ciphers module = stopping files := by
  cases method with
  | prepareApiBody params encryption =>
    exact ⟨_, rejectingOnly_escapes ((prepareApiBody_uncaught_iff ..).mpr escapes) _ _⟩
  | saveSentMessage tag params =>
    cases params with
    | error e => exact ⟨module.files, rfl⟩
    | ok sent =>
      have absent : module.signalClient = none := escapes.resolve_left (by simp)
      rw [start, absent]
      exact ⟨module.files, rfl⟩
  | decryptReceivedBody receivedBody =>
    have uncaught := (not_congr (LegacyMessage.decryptReceivedBody_settles_iff receivedBody module.files)).mpr escapes
    exact ⟨_, rejectingOnly_escapes (not_not.mp uncaught) _ _⟩
  | decryptSignalMessage tag receivedMessage draw =>
    rw [start]
    cases known : module.signalClient with
    | none => exact ⟨module.files, rfl⟩
    | some server =>
      have unsettled := (decryptSignalMessage_unsettled_iff tag receivedMessage draw module.files).mpr
        (escapes.resolve_left (by simp [known]))
      dsimp only
      rw [unsettled]
      exact ⟨_, rfl⟩
  | deleteSignalMessage username timestamp =>
    rw [start]
    rcases @call_cases http (.delete (deleteUrl username timestamp) true) module.signalClient with
      ⟨e, thrown, _⟩ | ⟨server, known, accepted, _⟩
    · rw [thrown]
      exact ⟨module.files, rfl⟩
    · have refused := escapes server known
      rw [accepted] at refused
      cases refused
  | _ => exact absurd escapes id

theorem start_early (method : Method) (early : method.SettlesEarly http module) :
    Leaves 1 1 (method.start http p ciphers module) := by
  cases method with
  | deleteContact username =>
    obtain ⟨server, known, accepted⟩ := early
    rw [start]
    rcases @call_cases http (.pendingMessages username "*") module.signalClient with
      ⟨e, _, refused⟩ | ⟨_, _, _, called⟩
    · rw [refused server known] at accepted
      cases accepted
    · rw [called]
      refine ⟨rfl, rfl, rfl, fun task member => ?_⟩
      exact ⟨_, List.mem_singleton.mp member, rfl⟩
  | _ => exact absurd early id

theorem Leaves.begun {settlements requests : Nat} {reaction : TaskReaction} (leaves : Leaves settlements requests reaction)
    (server : SignalServer) :
    (Chain.begun reaction).told.length = settlements ∧
      (Chain.begun reaction).account Task.owed = settlements + requests ∧
      ∀ task ∈ (Chain.begun reaction).waiting, task.Fits http server := by
  obtain ⟨returns, told, owing, tasks⟩ := leaves
  have waiting : (Chain.begun reaction).waiting = reaction.started := by simp [Chain.begun, returns]
  refine ⟨told, ?_, fun task member => ?_⟩
  · rw [Chain.account, waiting, owing]
    exact congrArg (· + requests) told
  · rw [waiting] at member
    obtain ⟨request, rfl, owed⟩ := tasks task member
    exact .inr owed

theorem LeavesOne.begun {reaction : TaskReaction} (leaves : LeavesOne reaction) (server : SignalServer) :
    (Chain.begun reaction).account Task.owed = 1 ∧
      ∀ task ∈ (Chain.begun reaction).waiting, task.Fits http server := by
  rcases leaves with settled | asked
  · exact (settled.begun server).2
  · exact (asked.begun server).2

variable (http p ciphers module)

/-- At no point is the promise settled twice, and once no callback is pending it is settled. -/
def SettledOnce (method : Method) (events : List (Nat × Event verify)) : Prop :=
  ∀ done, done <+: events → (method.run http p ciphers module done).told.length ≤ 1 ∧
    ((method.run http p ciphers module done).waiting = [] → (method.run http p ciphers module done).told.length = 1)

def LosesNothing (method : Method) (events : List (Nat × Event verify)) : Prop :=
  ∀ done event task, done ++ [event] <+: events →
    (method.run http p ciphers module done).waiting[event.1]? = some task →
    ¬ task.Loses http (method.server module) p
      (event.2.meanwhile (method.run http p ciphers module done).state) event.2.toAnswer

variable {http p ciphers module}

theorem told_run (method : Method) {done events : List (Nat × Event verify)} (below : done <+: events) :
    (method.run http p ciphers module done).told.length ≤ (method.run http p ciphers module events).told.length :=
  (Chain.told_run (Chain.begun (method.start http p ciphers module)) below).length_le

theorem account_run (method : Method) (events : List (Nat × Event verify))
    (fit : ∀ task ∈ (Chain.begun (method.start http p ciphers module)).waiting, task.Fits http (method.server module)) :
    (method.run http p ciphers module events).account Task.owed ≤
        (Chain.begun (method.start http p ciphers module)).account Task.owed ∧
      ((method.run http p ciphers module events).account Task.owed =
        (Chain.begun (method.start http p ciphers module)).account Task.owed ↔
          method.LosesNothing http p ciphers module events) :=
  (task_ledger http (method.server module) p).account_run fit events

theorem settledOnce_iff (method : Method) {events : List (Nat × Event verify)}
    (finished : (method.run http p ciphers module events).waiting = []) :
    method.SettledOnce http p ciphers module events ↔ (method.run http p ciphers module events).told.length = 1 := by
  constructor
  · intro each
    exact (each events List.prefix_rfl).2 finished
  · intro once done below
    refine ⟨once ▸ told_run method below, fun idle => ?_⟩
    obtain ⟨more, rfl⟩ := below
    have same : method.run http p ciphers module (done ++ more) = method.run http p ciphers module done := by
      unfold run at idle ⊢
      rw [Chain.run, List.foldl_append]
      exact Chain.run_of_idle idle more
    rw [← same]
    exact once

/-- The promise of a method is settled exactly once if the method returns and every task of it comes to something; but
    `deleteContact` settles its promise at once and hands it on, so that there it takes a task that comes to nothing. -/
theorem promises_are_settled_once_iff (http : OkHttp) (p : Platform) (ciphers : Ciphers) (module : RNSignalClientModule)
    (method : Method) (events : List (Nat × Event verify))
    (finished : (method.run http p ciphers module events).waiting = []) :
    method.SettledOnce http p ciphers module events ↔ ¬ method.Escapes http p ciphers module ∧
      (method.LosesNothing http p ciphers module events ↔ ¬ method.SettlesEarly http module) := by
  have told := @Chain.account_of_idle _ _ _ Task.owed _ finished
  rw [settledOnce_iff method finished]
  by_cases escapes : method.Escapes http p ciphers module
  · obtain ⟨files, stopped⟩ := method.start_escapes escapes
    have silent : (method.run http p ciphers module events).told = [] := by
      unfold run
      rw [stopped, Chain.run_of_idle rfl]
      rfl
    simp [silent, escapes]
  · by_cases early : method.SettlesEarly http module
    · obtain ⟨at_once, due, fit⟩ := (@start_early http p ciphers module method early).begun (method.server module)
      obtain ⟨least, same⟩ := account_run method events fit
      have kept := @told_run verify http p ciphers module method [] events List.nil_prefix
      have first : (method.run http p ciphers module ([] : List (Nat × Event verify))).told.length = 1 := at_once
      rw [← same, due]
      simp only [escapes, early, not_false_eq_true, not_true_eq_false, iff_false, true_and]
      omega
    · obtain ⟨due, fit⟩ := (start_leaves_one method escapes early).begun (method.server module)
      have same := (account_run method events fit).2
      rw [due, told] at same
      simp [escapes, early, same]

def exchanged (exchange : Exchange) : Event everySignature where
  exchange := exchange
  encryption := .throws .json
  process _ := .error .json
  draws _ := ⟨⟨.throws .json [], .throws .json [], .throws .json []⟩, 0⟩
  generated := sampleKeys
  meanwhile := id

def emptyQueue : List (Nat × Event everySignature) :=
  [(0, exchanged (.answered ⟨200, some "\x7b\x7d".toList⟩)), (0, exchanged (.answered ⟨200, some "\x7b\x7d".toList⟩))]

def contacted : RNSignalClientModule := { initialised with files := bobFiles "[]" }

def bobsQueue : List (Nat × Event everySignature) :=
  [(0, exchanged (.answered ⟨200, some "\x7b\x7d".toList⟩)),
    (0, { exchanged (.answered bobQueue) with draws := fun _ => undecryptable }), (0, exchanged .dropped)]

theorem bobsQueue_steps :
    (List.range 4).map (fun i => ((receiveNewMessagesByContact "bob" "chat").run lenient .plain plainCiphers contacted
        (bobsQueue.take i)).waiting) =
      [[.timestamp (.contactMessages "bob" "chat" true)], [.reply (.contactMessages "bob" "chat" true)],
        [.timestamp (.delete "/v1/messages/bob/5" false)], []] ∧
    ((receiveNewMessagesByContact "bob" "chat").run lenient .plain plainCiphers contacted (bobsQueue.take 1)).state =
      bobFiles "[]" := by
  constructor
  · decide +kernel
  · rfl

theorem bobs_message_is_settled_once :
    ((receiveNewMessagesByContact "bob" "chat").run lenient .plain plainCiphers contacted bobsQueue).waiting = [] ∧
      (receiveNewMessagesByContact "bob" "chat").SettledOnce lenient .plain plainCiphers contacted bobsQueue := by
  obtain ⟨tasks, files⟩ := bobsQueue_steps
  have waits (i : Nat) (small : i < 4) := eq_getD_of_map_range tasks [] small
  have finished := waits 3 (by decide)
  rw [List.take_of_length_le (by decide)] at finished
  refine ⟨finished, (promises_are_settled_once_iff lenient .plain plainCiphers contacted
    (receiveNewMessagesByContact "bob" "chat") bobsQueue finished).mpr ⟨id, iff_of_true ?_ id⟩⟩
  intro done event task below found loses
  obtain ⟨i, short, rfl, occurs⟩ := snoc_prefix_take below
  have size : bobsQueue.length = 3 := rfl
  rw [waits i (by omega)] at found
  have places : i = 0 ∨ i = 1 ∨ i = 2 := by omega
  rcases places with rfl | rfl | rfl
  · cases occurs
    cases found
    cases loses
  · rw [files] at loses
    cases occurs
    cases found
    have queue : queueOf .plain bobQueue = [.obj Plain.bobEntry] := by decide +kernel
    dsimp only [Task.Loses, Request.Escapes, exchanged, id] at loses
    rw [queue] at loses
    rcases loses with (⟨text, sent, _, _, _, _, _, _, undecoded, _⟩ | ⟨_, e, thrown, _⟩) | ⟨_, more⟩
    · cases sent
      cases undecoded
    · cases thrown
    · exact more
  · cases occurs
    cases found
    cases loses

/-- Without a network the promise is never settled, a `DELETE` that fails leaves it as well, and `deleteContact` settles
    it a second time when the server has answered. -/
theorem promises_are_lost_or_settled_twice :
    ((getUnreadMessagesCount "chat").run lenient .plain plainCiphers initialised [(0, exchanged .dropped)]).waiting = [] ∧
      ((getUnreadMessagesCount "chat").run lenient .plain plainCiphers initialised [(0, exchanged .dropped)]).told = [] ∧
      ((deleteSignalMessage "bob" 1).run lenient .plain plainCiphers initialised [(0, exchanged .failed)]).waiting = [] ∧
      ((deleteSignalMessage "bob" 1).run lenient .plain plainCiphers initialised [(0, exchanged .failed)]).told = [] ∧
      ((deleteContact "bob").run lenient .plain plainCiphers initialised emptyQueue).told.length = 2 := by
  decide +kernel

end Method
end PillarSignal.Android
