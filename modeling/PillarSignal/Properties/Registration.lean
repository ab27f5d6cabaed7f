import PillarSignal.Storage.Log
import PillarSignal.Properties.SentHistory
import PillarSignal.Properties.UploadedKeys

namespace PillarSignal.Android

open Storage ProtocolStorage StorageFile

variable {verify : Verify} {p : Platform}

def SignalClient.AccountRequest.body : AccountRequest → JSONObject
  | .attributes request => request
  | .accounts request => request

def Agrees (p : Platform) (request : SignalClient.AccountRequest) (files : Files) : Prop :=
  request.body.lookup "registrationId" = some (.num (getLocalRegistrationId p files)) ∧
    request.body.lookup "name" = some (.str (getLocalUsername p files))

/-- A registration that is not known to be complete finds no id and no name of another attempt. -/
def Operation.Fresh (p : Platform) (files : Files) : Operation verify → Prop
  | .registerAccount username draw => isLocalRegistered p files = true ∨
      ((localField p "registrationId" files = none ∨ getLocalRegistrationId p files = draw.registrationId) ∧
        (localField p "username" files = none ∨ getLocalUsername p files = username))
  | _ => True

/-- `KeyHelper.generateRegistrationId` returns an `int`. -/
def Operation.Drawn : Operation verify → Prop
  | .init _ draw => toInt draw.registrationId = draw.registrationId
  | .registerAccount _ draw => toInt draw.registrationId = draw.registrationId
  | _ => True

theorem Agrees.congr {request : SignalClient.AccountRequest} {before after : Files} (agrees : Agrees p request before)
    (same : ∀ name ∈ ["registrationId", "username"], localField p name after = localField p name before) :
    Agrees p request after := by
  unfold Agrees getLocalRegistrationId getLocalUsername
  rw [same _ (by simp), same _ (by simp)]
  exact agrees

section Account

variable {files : Files} (ready : Ready p files) (parsed : Parsed p LOCAL_JSON_FILENAME files)
include ready parsed

theorem localField_registerAccount (unregistered : isLocalRegistered p files = false) (username : String)
    (draw : AccountDraw) :
    localField p "username" (SignalClient.registerAccount p username draw files).2 =
      some ((localField p "username" files).getD (.str username)) ∧
    localField p "registrationId" (SignalClient.registerAccount p username draw files).2 =
      some ((localField p "registrationId" files).getD (.num draw.registrationId)) := by
  have none_yet : Updates p LOCAL_JSON_FILENAME files files := .refl
  have named := none_yet.storeOnce "username" (.str username)
  have numbered := named.storeOnce "registrationId" (.num draw.registrationId)
  have keyed := numbered.storeField "signalingKey" (.str (p.texts.bytes.encode draw.signalingKey))
  have named_ready := named.framed.ready ready
  have numbered_ready := numbered.framed.ready ready
  have keyed_ready := keyed.framed.ready ready
  have first := localField_storeOnce ready parsed "username" (show Json.str username ≠ .null by simp)
  have second := localField_storeOnce named_ready (named.parsed ready parsed) "registrationId"
    (show Json.num draw.registrationId ≠ .null by simp)
  have other : localField p "registrationId" (storeOnce p "username" (.str username) files) =
      localField p "registrationId" files := localField_congr (entry_storeOnce ready (by decide) ..)
  rw [SignalClient.registerAccount, if_neg (by simp [unregistered])]
  constructor
  · calc localField p "username" _ = _ := localField_congr (entry_storeField keyed_ready (by decide) ..)
      _ = _ := localField_congr (entry_storeField numbered_ready (by decide) ..)
      _ = _ := localField_congr (entry_storeOnce named_ready (by decide) ..)
      _ = _ := first
  · calc localField p "registrationId" _ = _ := localField_congr (entry_storeField keyed_ready (by decide) ..)
      _ = _ := localField_congr (entry_storeField numbered_ready (by decide) ..)
      _ = _ := second
      _ = _ := by rw [other]

omit parsed in
theorem localField_registered (registered : isLocalRegistered p files = true) (username : String) (draw : AccountDraw)
    {name : String} (other : "signalingKey" ≠ name) :
    localField p name (SignalClient.registerAccount p username draw files).2 = localField p name files := by
  rw [SignalClient.registerAccount, if_pos registered]
  dsimp only
  unfold SignalClient.ensureSignalingKey
  dsimp only
  split
  · exact localField_congr (entry_storeField ready other ..)
  · rfl

theorem agrees_registerAccount {username : String} {draw : AccountDraw}
    (drawn : toInt draw.registrationId = draw.registrationId) :
    Agrees p (SignalClient.registerAccount p username draw files).1 (SignalClient.registerAccount p username draw files).2 ↔
      (Operation.registerAccount username draw : Operation verify).Fresh p files := by
  unfold Operation.Fresh
  cases registered : isLocalRegistered p files with
  | true =>
    simp only [true_or, iff_true]
    rw [SignalClient.registerAccount, if_pos registered]
    exact ⟨rfl, rfl⟩
  | false =>
    obtain ⟨name, number⟩ := localField_registerAccount ready parsed registered username draw
    have request : (SignalClient.registerAccount p username draw files).1 =
        .accounts (SignalClient.accountJSON (p.texts.bytes.encode draw.signalingKey) draw.registrationId username) := by
      rw [SignalClient.registerAccount, if_neg (by simp [registered])]
    have sent_number : (SignalClient.registerAccount p username draw files).1.body.lookup "registrationId" =
        some (.num draw.registrationId) := by
      rw [request]
      rfl
    have sent_name : (SignalClient.registerAccount p username draw files).1.body.lookup "name" = some (.str username) := by
      rw [request]
      rfl
    rw [Agrees, sent_number, sent_name, getLocalRegistrationId, getLocalUsername, name, number]
    simp only [Bool.false_eq_true, false_or, Option.some.injEq, Json.num.injEq, Json.str.injEq]
    apply and_congr
    · rw [getLocalRegistrationId]
      cases localField p "registrationId" files with
      | none => simp [OrgJson.asInteger, drawn]
      | some held => simp [eq_comm]
    · rw [getLocalUsername]
      cases localField p "username" files with
      | none => simp [OrgJson.toText]
      | some held => simp [eq_comm]

end Account

theorem user_register (batch : Batch verify) (files : Files) :
    readObject p LOCAL_JSON_FILENAME (batch.register p files).2 =
      readObject p LOCAL_JSON_FILENAME (SignalClient.loadIdentity p batch.generated files).2 :=
  ((SignalClient.loadSigned_updates batch.generated ..).readObject_of_ne (by decide)).trans
    ((SignalClient.storePreKeys_updates ..).readObject_of_ne (by decide))

theorem localField_register {files : Files} (ready : Ready p files) (batch : Batch verify) {name : String}
    (kept : name ≠ "identityKeyPair" ∨ (localField p name files).isSome) :
    localField p name (batch.register p files).2 = localField p name files := by
  rw [localField_congr (entry_congr (user_register batch files) name)]
  unfold SignalClient.loadIdentity
  split
  · rfl
  · dsimp only
    by_cases other : name = "identityKeyPair"
    · subst other
      obtain ⟨held, present⟩ := Option.isSome_iff_exists.mp (kept.resolve_left (by simp))
      rw [storeIdentityKeyPair, storeOnce_of_present present]
    · exact localField_congr (entry_storeOnce ready (Ne.symm other) ..)

theorem Operation.run_parsed {files : Files} (operation : Operation verify) (contained : operation.Contained)
    (ready : Ready p files) (parsed : Parsed p LOCAL_JSON_FILENAME files) :
    Parsed p LOCAL_JSON_FILENAME (operation.run p files) := by
  rcases operation.run_cases contained ready with keeps | ⟨_, empty⟩ | ⟨left, username, draw, which, still, same⟩ | ⟨batch, _, same⟩
  · rw [Parsed, keeps.user]
    exact parsed
  · exact ⟨[], empty _⟩
  · have start : Parsed p LOCAL_JSON_FILENAME left := by
      rcases which with rfl | ⟨_, empty⟩
      · exact parsed
      · exact ⟨[], empty _⟩
    rw [same]
    exact (SignalClient.registerAccount_updates p username draw left).parsed still start
  · rw [same, Parsed, user_register]
    exact (SignalClient.loadIdentity_updates batch.generated files).parsed ready parsed

structure Settled (p : Platform) (files : Files) : Prop where
  registrationId : (localField p "registrationId" files).isSome
  username : (localField p "username" files).isSome ∨ (localField p "identityKeyPair" files).isSome

theorem settled_registerAccount {files : Files} (ready : Ready p files) (parsed : Parsed p LOCAL_JSON_FILENAME files)
    (username : String) (draw : AccountDraw) : Settled p (SignalClient.registerAccount p username draw files).2 := by
  cases registered : isLocalRegistered p files with
  | true =>
    have fields := registered
    rw [isLocalRegistered_eq, Bool.and_eq_true] at fields
    refine ⟨?_, .inr ?_⟩
    · rw [localField_registered ready registered username draw (by decide)]
      exact fields.2
    · rw [localField_registered ready registered username draw (by decide)]
      exact fields.1
  | false =>
    obtain ⟨name, number⟩ := localField_registerAccount ready parsed registered username draw
    exact ⟨by rw [number]; rfl, .inl (by rw [name]; rfl)⟩

theorem Settled.registerAccount {files : Files} (settled : Settled p files) (ready : Ready p files)
    (parsed : Parsed p LOCAL_JSON_FILENAME files) (username : String) (draw : AccountDraw) :
    ∀ name ∈ ["registrationId", "username"],
      localField p name (SignalClient.registerAccount p username draw files).2 = localField p name files := by
  intro name own
  cases registered : isLocalRegistered p files with
  | true =>
    apply localField_registered ready registered
    rintro rfl
    simp at own
  | false =>
    obtain ⟨user, number⟩ := localField_registerAccount ready parsed registered username draw
    obtain ⟨id, held⟩ := Option.isSome_iff_exists.mp settled.registrationId
    have named : (localField p "username" files).isSome := by
      rcases settled.username with named | identified
      · exact named
      · rw [isLocalRegistered_eq, identified, settled.registrationId] at registered
        cases registered
    obtain ⟨text, called⟩ := Option.isSome_iff_exists.mp named
    simp only [List.mem_cons, List.not_mem_nil, or_false] at own
    rcases own with rfl | rfl
    · rw [number, held, Option.getD_some]
    · rw [user, called, Option.getD_some]

theorem Operation.run_settled {files : Files} (operation : Operation verify) (contained : operation.Contained)
    (ready : Ready p files) (parsed : Parsed p LOCAL_JSON_FILENAME files) (settled : Settled p files)
    (unwiped : operation.wipes p files = false) : Settled p (operation.run p files) ∧
      ∀ name ∈ ["registrationId", "username"], localField p name (operation.run p files) = localField p name files := by
  rcases operation.run_cases contained ready with keeps | ⟨wipes, _⟩ | ⟨left, username, draw, which, _, same⟩ | ⟨batch, _, same⟩
  · have fields : ∀ name, localField p name (operation.run p files) = localField p name files :=
      fun name => localField_congr (entry_congr keeps.user name)
    refine ⟨⟨?_, ?_⟩, fun name _ => fields name⟩
    · rw [fields]
      exact settled.registrationId
    · rw [fields, fields]
      exact settled.username
  · rw [unwiped] at wipes
    cases wipes
  · rcases which with rfl | ⟨wipes, _⟩
    · rw [same]
      exact ⟨settled_registerAccount ready parsed username draw, settled.registerAccount ready parsed username draw⟩
    · rw [unwiped] at wipes
      cases wipes
  · have fields : ∀ name ∈ ["registrationId", "username"],
        localField p name (batch.register p files).2 = localField p name files := by
      intro name own
      apply localField_register ready
      left
      rintro rfl
      simp at own
    rw [same]
    refine ⟨⟨?_, ?_⟩, fields⟩
    · rw [fields _ (by simp)]
      exact settled.registrationId
    · rw [fields "username" (by simp)]
      rcases settled.username with named | identified
      · exact .inl named
      · right
        rw [localField_register ready batch (.inr identified)]
        exact identified

theorem runs_settled {files : Files} (settled : Settled p files) (parsed : Parsed p LOCAL_JSON_FILENAME files)
    (operations : List (Operation verify)) (contained : ∀ operation ∈ operations, operation.Contained)
    (ready : ∀ done, done <+: operations → Ready p (runs p done files)) (unwiped : Unwiped p files operations) :
    Settled p (runs p operations files) ∧ Parsed p LOCAL_JSON_FILENAME (runs p operations files) ∧
      ∀ name ∈ ["registrationId", "username"], localField p name (runs p operations files) = localField p name files := by
  let same (reached : Files) : Prop := Settled p reached ∧ Parsed p LOCAL_JSON_FILENAME reached ∧
    ∀ name ∈ ["registrationId", "username"], localField p name reached = localField p name files
  have keeps : ∀ reached (operation : Operation verify), operation.Contained → Ready p reached →
      operation.wipes p reached = false → same reached → same (operation.run p reached) := by
    rintro reached operation contained ready unwiped ⟨still, read, fields⟩
    obtain ⟨next, kept⟩ := operation.run_settled contained ready read still unwiped
    exact ⟨next, operation.run_parsed contained ready read, fun name own => (kept name own).trans (fields name own)⟩
  exact runs_invariant keeps ⟨settled, parsed, fun _ _ => rfl⟩ operations contained ready unwiped

theorem runs_parsed {files : Files} (parsed : Parsed p LOCAL_JSON_FILENAME files) (operations : List (Operation verify))
    (contained : ∀ operation ∈ operations, operation.Contained)
    (ready : ∀ done, done <+: operations → Ready p (runs p done files)) :
    Parsed p LOCAL_JSON_FILENAME (runs p operations files) :=
  runs_invariant (fun _ operation contained ready (_ : True) => operation.run_parsed contained ready) parsed operations
    contained ready fun _ _ _ => trivial

theorem Operation.accountRequest_cases {files : Files} {operation : Operation verify}
    {request : SignalClient.AccountRequest} (ready : Ready p files) (parsed : Parsed p LOCAL_JSON_FILENAME files)
    (drawn : operation.Drawn) (sent : operation.accountRequest p files = some request) :
    Settled p (operation.run p files) ∧ (Agrees p request (operation.run p files) ↔ operation.Fresh p files) := by
  cases operation with
  | init config draw =>
    rcases @RNSignalClientModule.init_cases p config draw files with ⟨_, other⟩ | ⟨softReset, username, _, _, same⟩
    · rw [Operation.accountRequest] at sent
      split at sent
      · rename_i found
        exact absurd found (other _)
      · cases sent
    · have still := @RNSignalClientModule.wiped_ready p softReset files ready
      have empty := @RNSignalClientModule.wiped_empty p softReset files
      have absent : ∀ name, localField p name (RNSignalClientModule.wiped p softReset files) = none := by
        intro name
        rw [localField_eq, entry, empty]
        rfl
      have fresh : (Operation.registerAccount username draw : Operation verify).Fresh p
          (RNSignalClientModule.wiped p softReset files) := .inr ⟨.inl (absent _), .inl (absent _)⟩
      have agrees := (agrees_registerAccount still ⟨[], empty _⟩ drawn).mpr fresh
      rw [Operation.accountRequest, same] at sent
      cases sent
      rw [Operation.run, same]
      exact ⟨settled_registerAccount still ⟨[], empty _⟩ username draw, by simpa [Operation.Fresh] using agrees⟩
  | registerAccount username draw =>
    cases sent
    exact ⟨settled_registerAccount ready parsed username draw, agrees_registerAccount ready parsed drawn⟩
  | _ => cases sent

theorem runs_append (p : Platform) (first second : List (Operation verify)) (files : Files) :
    runs p (first ++ second) files = runs p second (runs p first files) := by
  rw [runs, List.foldl_append]
  rfl

/-- Along every run, the requests of registrations name the stored id and user until the next wipe, exactly
    as long as no registration is repeated with a new id or for another name before it is complete. -/
theorem account_requests_agree_iff (p : Platform) (files : Files) (operations : List (Operation verify))
    (parsed : Parsed p LOCAL_JSON_FILENAME files) (contained : ∀ operation ∈ operations, operation.Contained)
    (ready : ∀ done, done <+: operations → Ready p (runs p done files))
    (drawn : ∀ operation ∈ operations, operation.Drawn) :
    (∀ done operation later request, done ++ [operation] ++ later <+: operations →
      operation.accountRequest p (runs p done files) = some request →
      Unwiped p (runs p (done ++ [operation]) files) later →
      Agrees p request (runs p (done ++ [operation] ++ later) files)) ↔
    ∀ done operation, done ++ [operation] <+: operations → operation.Fresh p (runs p done files) := by
  have reached : ∀ done operation, done ++ [operation] <+: operations → Ready p (runs p done files) ∧
      Parsed p LOCAL_JSON_FILENAME (runs p done files) ∧ operation ∈ operations := by
    intro done operation below
    have front := (List.prefix_append done [operation]).trans below
    refine ⟨ready done front, ?_, below.subset (by simp)⟩
    exact runs_parsed parsed done (fun other member => contained other (front.subset member))
      fun earlier before => ready earlier (before.trans front)
  constructor
  · intro agree done operation below
    obtain ⟨here, read, member⟩ := reached done operation below
    cases sent : operation.accountRequest p (runs p done files) with
    | none =>
      cases operation with
      | registerAccount username draw => cases sent
      | _ => trivial
    | some request =>
      have now := agree done operation [] request (by simpa using below) sent
        (fun _ _ none_left => by simp at none_left)
      rw [List.append_nil, runs_snoc] at now
      exact (Operation.accountRequest_cases here read (drawn operation member) sent).2.mp now
  · intro fresh done operation later request below sent unwiped
    have front := (List.prefix_append (done ++ [operation]) later).trans below
    obtain ⟨here, read, member⟩ := reached done operation front
    obtain ⟨settled, agrees⟩ := Operation.accountRequest_cases here read (drawn operation member) sent
    have next := operation.run_parsed (contained operation member) here read
    rw [← runs_snoc] at settled agrees next
    have kept := runs_settled settled next later
      (fun other member => contained other (below.subset (List.mem_append_right _ member)))
      (fun between inner => by
        rw [← runs_append]
        exact ready _ (((List.prefix_append_right_inj _).mpr inner).trans below)) unwiped
    rw [runs_append]
    exact (agrees.mpr (fresh done operation front)).congr kept.2.2

/-- What the app calls to get an account, and what follows from the server's answers. -/
def Operation.OfAccount : Operation verify → Prop
  | .init _ _ | .registerAccount _ _ | .accountAnswered _ _ | .checkRemotePreKeys _ _ | .resetAccount => True
  | _ => False

theorem Operation.run_ready {files : Files} (operation : Operation verify) (own : operation.OfAccount)
    (ready : Ready p files) : Ready p (operation.run p files) := by
  have registered : ∀ found : Option (Batch verify),
      Ready p (found.elim files fun batch => (batch.register p files).2) := by
    intro found
    cases found with
    | none => exact ready
    | some batch => exact (SignalClient.framed_registerPreKeys ..).ready ready
  cases operation with
  | init config draw =>
    rw [Operation.run]
    rcases @RNSignalClientModule.init_cases p config draw files with ⟨same, _⟩ | ⟨softReset, username, _, _, sent⟩
    · rw [same]
      exact ready
    · rw [sent]
      exact (SignalClient.registerAccount_updates p username draw _).framed.ready (RNSignalClientModule.wiped_ready ready)
  | registerAccount username draw => exact (SignalClient.registerAccount_updates p username draw files).framed.ready ready
  | accountAnswered exchange generated =>
    rw [Operation.run_accountAnswered]
    exact registered _
  | checkRemotePreKeys exchange generated =>
    rw [Operation.run_checkRemotePreKeys]
    exact registered _
  | resetAccount => exact MessageStorage.ready_deleteAll ready.deleteAll
  | _ => exact own.elim

theorem runs_ready {files : Files} (ready : Ready p files) {operations : List (Operation verify)}
    (own : ∀ operation ∈ operations, operation.OfAccount) (done : List (Operation verify)) (below : done <+: operations) :
    Ready p (runs p done files) :=
  foldl_invariant (fun _ operation ready (own : operation.OfAccount) => operation.run_ready own ready) ready
    (fun _ operation front => own operation (front.subset (by simp))) done below

section Retried

def retriedWith (registrationId : Int) : List (Operation everySignature) :=
  [.init ⟨some "https://host", some "bob", some "token"⟩ ⟨7, [1]⟩, .accountAnswered .failed sampleKeys,
   .registerAccount "bob" ⟨registrationId, [2]⟩]

theorem retry_with_stored_id_agrees :
    let after := runs .plain (retriedWith 7) noFiles
    ∃ request, (Operation.registerAccount "bob" ⟨7, [2]⟩ : Operation everySignature).accountRequest .plain
        (runs .plain ((retriedWith 7).take 2) noFiles) = some request ∧ Agrees .plain request after := by
  have own : ∀ operation ∈ retriedWith 7, operation.OfAccount := by
    intro operation member
    simp only [retriedWith, List.mem_cons, List.not_mem_nil, or_false] at member
    rcases member with rfl | rfl | rfl <;> trivial
  have contained : ∀ operation ∈ retriedWith 7, operation.Contained := by
    intro operation member
    simp only [retriedWith, List.mem_cons, List.not_mem_nil, or_false] at member
    rcases member with rfl | rfl | rfl <;> trivial
  have drawn : ∀ operation ∈ retriedWith 7, operation.Drawn := by
    intro operation member
    simp only [retriedWith, List.mem_cons, List.not_mem_nil, or_false] at member
    rcases member with rfl | rfl | rfl
    · exact (by decide : toInt 7 = 7)
    · trivial
    · exact (by decide : toInt 7 = 7)
  have kept : getLocalRegistrationId .plain (runs .plain ((retriedWith 7).take 2) noFiles) = 7 ∧
      getLocalUsername .plain (runs .plain ((retriedWith 7).take 2) noFiles) = "bob" := by decide +kernel
  refine ⟨_, rfl, (account_requests_agree_iff .plain noFiles (retriedWith 7) ⟨[], noFiles_empty _⟩ contained
    (fun done below => runs_ready noFiles_ready own done below) drawn).mpr ?_ ((retriedWith 7).take 2)
    (.registerAccount "bob" ⟨7, [2]⟩) [] _ List.prefix_rfl rfl (fun _ _ none_left => by simp at none_left)⟩
  intro done operation below
  obtain ⟨rest, same⟩ := below
  rcases done with _ | ⟨first, _ | ⟨second, _ | ⟨third, more⟩⟩⟩
  · cases same
    trivial
  · cases same
    trivial
  · cases same
    exact .inr ⟨.inr kept.1, .inr kept.2⟩
  · have lengths := congrArg List.length same
    simp [retriedWith] at lengths

theorem retry_sends_another_id :
    let before := runs .plain ((retriedWith 8).take 2) noFiles
    let retry := SignalClient.registerAccount .plain "bob" ⟨8, [2]⟩ before
    retry.1.body.lookup "registrationId" = some (.num 8) ∧ getLocalRegistrationId .plain retry.2 = 7 := by
  decide +kernel

end Retried

def Operation.acceptance (p : Platform) (files : Files) : Operation verify → List (LogEvent Unit Response)
  | .accountAnswered (.answered response) _ => if Success response.code then [.append () response] else []
  | operation => if operation.wipes p files then [.clear fun _ => true] else []

/-- The answers with a 2xx code to `PUT /v1/accounts` since the protocol storage was last deleted. -/
def acceptances (p : Platform) (operations : List (Operation verify)) (files : Files) : List Response :=
  logOf (trace (Operation.run p) (Operation.acceptance p) operations files) ()

theorem acceptances_snoc (done : List (Operation verify)) (operation : Operation verify) (files : Files) :
    acceptances p (done ++ [operation]) files =
      (operation.acceptance p (runs p done files)).foldl (LogEvent.onto ()) (acceptances p done files) := by
  rw [acceptances, trace_snoc, logOf_append]
  rfl

/-- Keys are made only once the server has taken the account. -/
def Operation.Authorised (p : Platform) (files : Files) : Operation verify → Prop
  | .accountAnswered (.answered response) _ =>
    Success response.code ∨ (localField p "identityKeyPair" files).isSome
  | .checkRemotePreKeys exchange generated =>
    ((Operation.checkRemotePreKeys exchange generated).batch p files).isSome →
      (localField p "identityKeyPair" files).isSome
  | _ => True

theorem Operation.run_wiped {files : Files} (operation : Operation verify) (ready : Ready p files)
    (wipes : operation.wipes p files = true) : localField p "identityKeyPair" (operation.run p files) = none := by
  have of_empty : ∀ {left : Files}, readObject p LOCAL_JSON_FILENAME left = .ok [] →
      localField p "identityKeyPair" left = none := by
    intro left empty
    rw [localField_eq, entry, empty]
    rfl
  cases operation with
  | init config draw =>
    rcases @RNSignalClientModule.init_cases p config draw files with ⟨_, other⟩ | ⟨softReset, username, _, _, sent⟩
    · rw [Operation.wipes, Operation.accountRequest] at wipes
      split at wipes
      · rename_i found
        exact absurd found (other _)
      · cases wipes
    · rw [Operation.run, sent, localField_congr (SignalClient.entry_registerAccount p username draw
        (RNSignalClientModule.wiped_ready ready) (by decide))]
      exact of_empty (RNSignalClientModule.wiped_empty softReset files _)
  | resetAccount =>
    apply of_empty
    rw [Operation.run, RNSignalClientModule.resetAccount, MessageStorage.readObject_deleteAll, readObject_deleteAll]
  | _ => cases wipes

theorem Operation.run_accepted {files : Files} (operation : Operation verify) (contained : operation.Contained)
    (ready : Ready p files) (authorised : operation.Authorised p files) {log : List Response}
    (known : (localField p "identityKeyPair" files).isSome → log ≠ [])
    (identified : (localField p "identityKeyPair" (operation.run p files)).isSome) :
    (operation.acceptance p files).foldl (LogEvent.onto ()) log ≠ [] := by
  cases wipes : operation.wipes p files with
  | true =>
    rw [operation.run_wiped ready wipes] at identified
    cases identified
  | false =>
    have kept : log ≠ [] → (operation.acceptance p files).foldl (LogEvent.onto ()) log ≠ [] := by
      intro some_log
      unfold Operation.acceptance
      split
      · split
        · simp [LogEvent.onto]
        · exact some_log
      · rw [wipes]
        exact some_log
    by_cases before : (localField p "identityKeyPair" files).isSome
    · exact kept (known before)
    have absent : localField p "identityKeyPair" files = none := Option.not_isSome_iff_eq_none.mp before
    rcases operation.run_cases contained ready with keeps | ⟨wiped, _⟩ | ⟨left, username, draw, which, _, same⟩ | ⟨batch, asked, _⟩
    · rw [localField_congr (entry_congr keeps.user _), absent] at identified
      cases identified
    · rw [wipes] at wiped
      cases wiped
    · rcases which with rfl | ⟨wiped, _⟩
      · rw [same, localField_congr (SignalClient.entry_registerAccount p username draw ready (by decide)), absent] at identified
        cases identified
      · rw [wipes] at wiped
        cases wiped
    · cases operation with
      | accountAnswered exchange generated =>
        cases exchange with
        | answered response =>
          have success := authorised.resolve_right before
          simp [Operation.acceptance, success, LogEvent.onto]
        | _ => cases asked
      | checkRemotePreKeys exchange generated => exact absurd (authorised (by rw [asked]; rfl)) before
      | _ => cases asked

theorem init_checking {config : Config} {draw : AccountDraw} {files : Files}
    (checking : (RNSignalClientModule.init p config draw files).1 = .checking) : isLocalRegistered p files = true := by
  unfold RNSignalClientModule.init at checking
  split at checking
  · split at checking
    · cases checking
    · split at checking
      · rename_i registered
        simp only [Bool.and_eq_true] at registered
        exact registered.2
      · cases checking
  · cases checking

/-- Along every run in which keys are made only for accounts that the server took, a device that counts as
    registered is one, and so is one whose start skips the registration. -/
theorem registered_means_accepted (p : Platform) (files : Files) (operations : List (Operation verify))
    (unknown : localField p "identityKeyPair" files = none)
    (contained : ∀ operation ∈ operations, operation.Contained)
    (ready : ∀ done, done <+: operations → Ready p (runs p done files))
    (authorised : ∀ done operation, done ++ [operation] <+: operations → operation.Authorised p (runs p done files)) :
    ∀ done, done <+: operations →
      (isLocalRegistered p (runs p done files) = true → acceptances p done files ≠ []) ∧
      ∀ config draw, (RNSignalClientModule.init p config draw (runs p done files)).1 = .checking →
        acceptances p done files ≠ [] := by
  have known : ∀ done, done <+: operations →
      (localField p "identityKeyPair" (runs p done files)).isSome → acceptances p done files ≠ [] := by
    intro done below
    induction done using List.reverseRecOn with
    | nil =>
      intro identified
      have absent : localField p "identityKeyPair" (runs p ([] : List (Operation verify)) files) = none := unknown
      rw [absent] at identified
      cases identified
    | append_singleton done operation ih =>
      have front := (List.prefix_append done [operation]).trans below
      rw [runs_snoc, acceptances_snoc]
      exact operation.run_accepted (contained operation (below.subset (by simp))) (ready done front)
        (authorised done operation below) (ih front)
  intro done below
  have registered : isLocalRegistered p (runs p done files) = true → acceptances p done files ≠ [] := by
    intro registered
    rw [isLocalRegistered_eq, Bool.and_eq_true] at registered
    exact known done below registered.1
  exact ⟨registered, fun config draw checking => registered (init_checking checking)⟩

theorem registered_of_register {files : Files} (coherent : Coherent verify p files) (ready : Ready p files)
    (numbered : (localField p "registrationId" files).isSome) (batch : Batch verify) :
    isLocalRegistered p (batch.register p files).2 = true := by
  obtain ⟨identity, own, _⟩ := (coherent.registered ready batch).identityKey
  have same : localField p "registrationId" (batch.register p files).2 = localField p "registrationId" files :=
    localField_register ready batch (.inl (by decide))
  rw [isLocalRegistered_eq, same, numbered, Bool.and_true]
  cases held : localField p "identityKeyPair" (batch.register p files).2 with
  | none =>
    rw [getIdentityKeyPair, held] at own
    cases own
  | some value => rfl

section Refused

def answeredWith (code : Nat) : List (Operation everySignature) :=
  firstStart ++ [.accountAnswered (.answered ⟨code, none⟩) sampleKeys]

theorem answered_batch (code : Nat) (files : Files) :
    (Operation.accountAnswered (.answered ⟨code, none⟩) sampleKeys : Operation everySignature).batch .plain files =
      some firstBatch := rfl

theorem answered_registers (code : Nat) : isLocalRegistered .plain (runs .plain (answeredWith code) noFiles) = true := by
  have numbered : (localField .plain "registrationId" (runs .plain firstStart noFiles)).isSome := by decide +kernel
  rw [answeredWith, runs_snoc, Operation.batch_run (answered_batch code _)]
  exact registered_of_register firstStart_coherent firstStart_ready numbered firstBatch

theorem mem_answeredWith {code : Nat} {operation : Operation everySignature} (member : operation ∈ answeredWith code) :
    operation = .init ⟨some "https://host", some "bob", some "token"⟩ ⟨7, [1]⟩ ∨
      operation = .accountAnswered (.answered ⟨code, none⟩) sampleKeys := by
  simpa [answeredWith, firstStart] using member

theorem answered_contained {code : Nat} : ∀ operation ∈ answeredWith code, operation.Contained := by
  intro operation member
  rcases mem_answeredWith member with rfl | rfl <;> trivial

theorem answered_ready {code : Nat} : ∀ done, done <+: answeredWith code → Ready .plain (runs .plain done noFiles) := by
  refine runs_ready noFiles_ready fun operation member => ?_
  rcases mem_answeredWith member with rfl | rfl <;> trivial

theorem accepted_account_is_registered : acceptances .plain (answeredWith 200) noFiles ≠ [] := by
  refine (registered_means_accepted .plain noFiles (answeredWith 200) (by decide +kernel) answered_contained answered_ready
    ?_ (answeredWith 200) List.prefix_rfl).1 (answered_registers 200)
  intro done operation below
  have member : operation ∈ answeredWith 200 := below.subset (by simp)
  rcases mem_answeredWith member with rfl | rfl
  · trivial
  · exact .inl ⟨by decide, by decide⟩

theorem refused_account_is_registered :
    isLocalRegistered .plain (runs .plain (answeredWith 403) noFiles) = true ∧
      acceptances .plain (answeredWith 403) noFiles = [] := by
  have before : acceptances .plain firstStart noFiles = [] := by decide +kernel
  refine ⟨answered_registers 403, ?_⟩
  rw [answeredWith, acceptances_snoc, before]
  rfl

end Refused
end PillarSignal.Android
