import PillarSignal.Ios.Requests
import PillarSignal.Properties.UploadedKeys

namespace PillarSignal.Ios

open Storage ProtocolStorage DownloadsType SignalClient

variable {verify : Verify} {p : Platform}

structure Readable (p : Platform) (archives : Archives) : Prop where
  preKey : ∀ id data, PreKeyStorePillar.load p id archives = some data → (p.preKey.decode data).isSome
  signedPreKey : ∀ data, SignedPreKeyStorePillar.load p 1 archives = some data → (p.signedPreKey.decode data).isSome

theorem readable_of_empty {archives : Archives} (preKeys : get PRE_KEYS_JSON_FILENAME archives = [])
    (signedPreKeys : get SIGNED_PRE_KEYS_JSON_FILENAME archives = []) : Readable p archives := by
  refine ⟨fun id data loaded => ?_, fun data loaded => ?_⟩
  · rw [PreKeyStorePillar.load, loadData, preKeys] at loaded
    cases loaded
  · rw [SignedPreKeyStorePillar.load, loadData, signedPreKeys] at loaded
    cases loaded

theorem Readable.keeps {before after : Archives} (readable : Readable p before) (keeps : KeepsKeys before after) :
    Readable p after := by
  refine ⟨fun id data loaded => ?_, fun data loaded => ?_⟩
  · apply readable.preKey id
    rw [PreKeyStorePillar.load, loadData] at loaded ⊢
    rcases keeps.preKeys (Decimal.toText id) with gone | same
    · rw [gone] at loaded
      cases loaded
    · rwa [same] at loaded
  · apply readable.signedPreKey
    rwa [SignedPreKeyStorePillar.load, loadData, keeps.signedPreKeys] at loaded

section Batch

variable {archives : Archives}

theorem load_store (record : PreKeyRecord) (id : Int) (archives : Archives) :
    PreKeyStorePillar.load p id (PreKeyStorePillar.store p (p.preKey.encode record) record.id archives) =
      if record.id = id then some (p.preKey.encode record) else PreKeyStorePillar.load p id archives := by
  rw [PreKeyStorePillar.load, loadData, PreKeyStorePillar.store, storeData, get_save, if_pos rfl, lookup_put]
  by_cases same : record.id = id
  · simp [same, asString, p.base64.decode_encode]
  · have apart : Decimal.toText record.id ≠ Decimal.toText id := fun texts => same (Decimal.toText_injective texts)
    rw [if_neg apart, if_neg same]
    rfl

theorem Readable.loadIdentity (readable : Readable p archives) (generated : Generated verify) :
    Readable p (loadIdentity p generated archives).2 := by
  refine ⟨fun id data loaded => ?_, fun data loaded => ?_⟩
  · rw [PreKeyStorePillar.load, loadData, get_loadIdentity generated (by decide)] at loaded
    exact readable.preKey id data loaded
  · rw [SignedPreKeyStorePillar.load, loadData, get_loadIdentity generated (by decide)] at loaded
    exact readable.signedPreKey data loaded

theorem Readable.storePreKeys (readable : Readable p archives) (preKeys : List PreKeyRecord) :
    Readable p (storePreKeys p preKeys archives) := by
  unfold SignalClient.storePreKeys
  induction preKeys generalizing archives with
  | nil => exact readable
  | cons record preKeys ih =>
    rw [List.foldl_cons]
    apply ih
    refine ⟨fun id data loaded => ?_, fun data loaded => ?_⟩
    · rw [load_store] at loaded
      split at loaded
      · cases loaded
        rw [p.preKey.decode_encode]
        rfl
      · exact readable.preKey id data loaded
    · apply readable.signedPreKey
      rwa [SignedPreKeyStorePillar.load, loadData, PreKeyStorePillar.store, storeData, get_save,
        if_neg (by decide)] at loaded

theorem Readable.loadLastRecord (readable : Readable p archives) (generated : Generated verify) :
    (SignalClient.loadLastRecord p generated archives).isSome := by
  unfold SignalClient.loadLastRecord
  split
  · rename_i data stored
    exact readable.preKey _ data stored
  · rfl

theorem Readable.loadSigned (readable : Readable p archives) (generated : Generated verify) (identity : KeyPair) :
    (SignalClient.loadSigned p generated identity archives).1.isSome ∧
      Readable p (SignalClient.loadSigned p generated identity archives).2 := by
  unfold SignalClient.loadSigned
  split
  · rename_i data stored
    exact ⟨readable.signedPreKey data stored, readable⟩
  · refine ⟨rfl, fun id data loaded => ?_, fun data loaded => ?_⟩ <;> dsimp only at loaded
    · apply readable.preKey id
      rwa [PreKeyStorePillar.load, loadData, SignedPreKeyStorePillar.store, storeData, get_save,
        if_neg (by decide)] at loaded
    · simp only [SignedPreKeyStorePillar.load, SignedPreKeyStorePillar.store, loadData, storeData, get_save, if_true,
        Generated.signedPreKey, lookup_put, asString, Option.bind_some, p.base64.decode_encode, Option.some.injEq] at loaded
      rw [← loaded, p.signedPreKey.decode_encode]
      rfl

theorem Batch.register_readable (batch : Batch verify) (readable : Readable p archives) :
    (∃ upload, batch.register p archives = (.upload upload, (batch.signed p archives).2) ∧
      upload.identityKey = (batch.identity p archives).publicKey ∧ upload.preKeys = batch.preKeys) ∨
    (¬ (0 ≤ batch.count ∧ batch.count < 2 ^ 32) ∧
      batch.register p archives = (.crashed, (SignalClient.loadIdentity p batch.generated archives).2)) := by
  have named := readable.loadIdentity batch.generated
  have signed := ((named.storePreKeys batch.preKeys).loadSigned batch.generated (batch.identity p archives)).1
  obtain ⟨lastResortKey, last⟩ := Option.isSome_iff_exists.mp (named.loadLastRecord batch.generated)
  rw [← Batch.stored, ← Batch.signed] at signed
  unfold Batch.register registerPreKeys
  dsimp only
  rw [← Batch.preKeys, ← Batch.stored, ← Batch.identity, ← Batch.signed, last]
  split
  · left
    split
    · rename_i same
      rw [same] at signed
      cases signed
    · rename_i same
      rw [same]
      exact ⟨_, rfl, rfl, rfl⟩
  · rename_i uncountable
    exact .inr ⟨uncountable, rfl⟩

theorem Readable.register (readable : Readable p archives) (batch : Batch verify) :
    Readable p (batch.register p archives).2 := by
  have named := readable.loadIdentity batch.generated
  rcases batch.register_readable readable with ⟨upload, same, _⟩ | ⟨_, same⟩ <;> rw [same]
  · exact ((named.storePreKeys batch.preKeys).loadSigned batch.generated (batch.identity p archives)).2
  · exact named

end Batch

theorem Operation.run_readable (operation : Operation verify) {archives : Archives} (readable : Readable p archives) :
    Readable p (operation.run p archives) := by
  rcases operation.run_cases (p := p) archives with keeps | ⟨_, preKeys, signedPreKeys⟩ | ⟨batch, same⟩
  · exact readable.keeps keeps
  · exact readable_of_empty preKeys signedPreKeys
  · rw [same]
    exact readable.register batch

/-- The stored identity was uploaded together with a pre key that is still stored. -/
def Uploaded (p : Platform) (uploads : List Upload) (archives : Archives) : Prop :=
  ∃ upload ∈ uploads,
    (∃ identity, getIdentityKeyPair p archives = some identity ∧ identity.publicKey = upload.identityKey) ∧
    ∃ preKey ∈ upload.preKeys, loadPreKey p preKey.id archives = some preKey

theorem Uploaded.congr {uploads : List Upload} {before after : Archives} (uploaded : Uploaded p uploads before)
    (identity : getIdentityKeyPair p after = getIdentityKeyPair p before)
    (preKeys : get PRE_KEYS_JSON_FILENAME after = get PRE_KEYS_JSON_FILENAME before) : Uploaded p uploads after := by
  obtain ⟨upload, sent, own, preKey, member, stored⟩ := uploaded
  refine ⟨upload, sent, identity ▸ own, preKey, member, ?_⟩
  rw [loadPreKey_congr preKeys]
  exact stored

theorem Uploaded.identity {uploads : List Upload} {archives : Archives} (uploaded : Uploaded p uploads archives) :
    ∃ identity, getIdentityKeyPair p archives = some identity := by
  obtain ⟨_, _, ⟨identity, own, _⟩, _⟩ := uploaded
  exact ⟨identity, own⟩

theorem Batch.uploaded (batch : Batch verify) (archives : Archives) {upload : Upload} (some_keys : 0 < batch.count)
    (identity : upload.identityKey = (batch.identity p archives).publicKey) (preKeys : upload.preKeys = batch.preKeys)
    (uploads : List Upload) : Uploaded p (uploads ++ [upload]) (batch.signed p archives).2 := by
  have nonempty : batch.preKeys ≠ [] := by
    have count : batch.count.toNat ≠ 0 := by omega
    intro none_made
    have lengths := congrArg List.length none_made
    simp [Batch.preKeys, Generated.preKeys] at lengths
    exact count (Int.toNat_eq_zero.mpr lengths)
  obtain ⟨front, last, split⟩ := (List.eq_nil_or_concat batch.preKeys).resolve_left nonempty
  refine ⟨upload, by simp, ⟨batch.identity p archives, ?_, identity.symm⟩, last, by simp [preKeys, split], ?_⟩
  · rw [Batch.signed, identity_loadSigned, batch.identity_stored]
  · rw [Batch.signed, loadPreKey_congr (get_loadSigned batch.generated (by decide) ..), Batch.stored,
      loadPreKey_storePreKeys, split, List.concat_eq_append, lastWith_append, if_pos rfl]

section Fields

theorem publicKey_of_identity {archives : Archives} {identity : KeyPair}
    (own : getIdentityKeyPair p archives = some identity) : (getLocal "identityKeyPairPublicKey" archives).isSome := by
  cases held : getLocal "identityKeyPairPublicKey" archives with
  | some value => rfl
  | none => simp [getIdentityKeyPair, held] at own

theorem Batch.registrationId_register (batch : Batch verify) (archives : Archives) :
    getLocal "registrationId" (batch.register p archives).2 = getLocal "registrationId" archives := by
  have named : getLocal "registrationId" (SignalClient.loadIdentity p batch.generated archives).2 =
      getLocal "registrationId" archives := by
    unfold SignalClient.loadIdentity
    split
    · rfl
    · simp [getLocal, storeIdentityKeyPair, lookup_put]
  have signed : getLocal "registrationId" (batch.signed p archives).2 = getLocal "registrationId" archives := by
    rw [Batch.signed, getLocal, get_loadSigned batch.generated (by decide), Batch.stored, get_storePreKeys (by decide)]
    exact named
  rcases @Batch.register_cases verify p batch archives with ⟨_, _, same, _⟩ | ⟨_, same | same⟩ <;> rw [same]
  · exact signed
  · exact named
  · exact signed

theorem register_request {username : String} {draw : AccountDraw} {archives after : Archives} {request : AccountRequest}
    (sent : register username draw archives = (.ok request, after)) :
    (request.kind = .attributes ∧ (getLocalRegistrationId archives).isSome) ∨
      (request.kind = .accounts ∧ (getLocal "registrationId" after).isSome) := by
  unfold register at sent
  split at sent
  · split at sent
    · rename_i stored
      cases sent
      exact .inl ⟨rfl, by rw [stored]; rfl⟩
    · split at sent
      · cases sent
      · cases sent
        refine .inr ⟨rfl, ?_⟩
        simp only [storeSignalResetVersion, storeSignalingKey, storeLocalUsername, storeLocalRegistrationId,
          getLocal_setLocal]
        rfl
  · cases sent

theorem registrationId_register (username : String) (draw : AccountDraw) {archives : Archives}
    (stored : (getLocal "registrationId" archives).isSome) :
    (getLocal "registrationId" (register username draw archives).2).isSome := by
  unfold register
  split
  · split
    · dsimp only
      split
      · rw [storeSignalingKey, getLocal_setLocal, if_neg (by decide)]
        exact stored
      · exact stored
    · split
      · exact stored
      · simp only [storeSignalResetVersion, storeSignalingKey, storeLocalUsername, storeLocalRegistrationId,
          getLocal_setLocal]
        rfl
  · exact stored

theorem checkPreKeys_start {store : Bool} {dictionary : Dictionary} {archives : Archives} {start count : Int}
    (checked : checkPreKeys store dictionary archives = some (start, count)) :
    0 < count ∧ ∃ last, PreKeyStorePillar.getLastPreKeyIndex archives = some last ∧ start = last + 1 := by
  unfold checkPreKeys at checked
  dsimp only at checked
  split at checked
  · rename_i low
    obtain ⟨last, found, checked⟩ := Option.bind_eq_some_iff.mp checked
    split at checked
    · cases checked
      exact ⟨by omega, last, found, rfl⟩
    · cases checked
  · cases checked

theorem getLocal_wiped (name : String) (archives : Archives) :
    getLocal name (RNSignalClientModule.wiped archives) = none := by
  rw [getLocal, ProtocolStorage.get, RNSignalClientModule.wiped_protocol archives (by simp)]
  rfl

end Fields

/-- What was stored when a request was sent and stays until the archives are deleted. -/
def Request.Backed (archives : Archives) : Request → Prop
  | .accounts => (getLocal "registrationId" archives).isSome
  | .keys false => True
  | _ => isLocalRegistered archives = true

structure Client.Sound (p : Platform) (client : Client) : Prop where
  readable : Readable p client.archives
  uploaded : (getLocal "identityKeyPairPublicKey" client.archives).isSome → Uploaded p client.uploads client.archives
  current : Current (Request.Backed client.archives) client.waiting

/-- A registration is repeated only once it is complete, and the server is heard only about requests that
    were sent since the archives were last deleted. -/
def Step.Orderly (p : Platform) (client : Client) : Step verify → Prop
  | .registerAccount _ _ =>
    (getLocalRegistrationId client.archives).isSome → isLocalRegistered client.archives = true
  | .answered index _ exchange _ => ∀ pending dictionary, client.waiting[index]? = some pending →
      SignalServer.call p exchange = .success dictionary → pending.stale = false
  | _ => True

theorem Request.Backed.mono {before after : Archives} {request : Request} (backed : request.Backed before)
    (identity : (getLocal "identityKeyPairPublicKey" before).isSome → (getLocal "identityKeyPairPublicKey" after).isSome)
    (numbered : (getLocal "registrationId" before).isSome → (getLocal "registrationId" after).isSome) :
    request.Backed after := by
  have registered : isLocalRegistered before = true → isLocalRegistered after = true := by
    simp only [isLocalRegistered, Bool.and_eq_true]
    exact fun ⟨own, id⟩ => ⟨identity own, numbered id⟩
  cases request with
  | attributes => exact registered backed
  | accounts => exact numbered backed
  | keys registering =>
    cases registering with
    | true => exact registered backed
    | false => trivial
  | keysCount => exact registered backed

namespace Client.Sound

variable {client : Client}

theorem fresh : (Client.fresh).Sound p where
  readable := readable_of_empty rfl rfl
  uploaded := nofun
  current := nofun

theorem answer (sound : client.Sound p) (index : Nat) :
    Sound p { client with waiting := client.waiting.eraseIdx index } :=
  ⟨sound.readable, sound.uploaded, sound.current.answer index⟩

theorem outdated (sound : client.Sound p) (after : Archives) :
    Current (Request.Backed after) (outdate (fun _ => true) client.waiting) :=
  sound.current.outdate fun _ covered => by cases covered

theorem uploading (sound : client.Sound p) (registering : Bool) (batch : Batch verify) (some_keys : 0 < batch.count)
    (numbered : registering = true → (getLocal "registrationId" client.archives).isSome)
    (named : batch.count < 2 ^ 32 ∨ (getLocal "identityKeyPairPublicKey" client.archives).isSome) :
    (client.uploading registering (batch.register p client.archives)).2.Sound p := by
  have readable := sound.readable.register batch
  have kept := @Batch.registrationId_register verify p batch client.archives
  rcases batch.register_readable sound.readable with ⟨upload, same, identity, preKeys⟩ | ⟨uncountable, same⟩
  · rw [same] at readable kept ⊢
    have uploaded := batch.uploaded client.archives some_keys identity preKeys client.uploads
    obtain ⟨own, held⟩ := uploaded.identity
    have publicKey := publicKey_of_identity held
    refine ⟨readable, fun _ => uploaded, Current.send (sound.current.mono fun request backed => ?_) ?_⟩
    · exact backed.mono (fun _ => publicKey) fun stored => (congrArg Option.isSome kept).trans stored
    · cases registering with
      | false => trivial
      | true =>
        simp only [Request.Backed, isLocalRegistered, Bool.and_eq_true]
        exact ⟨publicKey, (congrArg Option.isSome kept).trans (numbered rfl)⟩
  · have publicKey := named.resolve_left fun countable => uncountable ⟨by omega, countable⟩
    obtain ⟨own, held⟩ := (sound.uploaded publicKey).identity
    have unchanged : (SignalClient.loadIdentity p batch.generated client.archives).2 = client.archives := by
      rw [SignalClient.loadIdentity, held]
    rw [same, unchanged]
    exact ⟨sound.readable, sound.uploaded, List.forall_mem_nil _⟩

theorem createClient (sound : client.Sound p) (username : String) (draw : AccountDraw) :
    (client.step p (.createClient username draw : Step verify)).Sound p := by
  have readable : ∀ {after : Archives},
      (register username draw (RNSignalClientModule.wiped client.archives)).2 = after → Readable p after := by
    rintro after rfl
    apply readable_of_empty <;>
    · rw [get_register_of_ne (by decide), ProtocolStorage.get, RNSignalClientModule.wiped_protocol _ (by simp)]
      rfl
  have unnamed : ∀ {after : Archives} {uploads : List Upload},
      (register username draw (RNSignalClientModule.wiped client.archives)).2 = after →
        (getLocal "identityKeyPairPublicKey" after).isSome → Uploaded p uploads after := by
    rintro after uploads rfl own
    rw [getLocal_register (by decide), getLocal_wiped] at own
    cases own
  have outdated := sound.outdated
  rw [Client.step, Client.call]
  rcases RNSignalClientModule.createClient_cases username draw client.archives with ⟨same, registered⟩ | ⟨result, after, sent, same⟩
  · rw [same]
    exact ⟨sound.readable, sound.uploaded, sound.current.send registered⟩
  · have held := congrArg Prod.snd sent
    rw [same]
    cases result with
    | error failure => exact ⟨readable held, unnamed held, outdated after⟩
    | ok request =>
      refine ⟨readable held, unnamed held, (outdated after).send ?_⟩
      rcases register_request sent with ⟨_, stored⟩ | ⟨accounts, numbered⟩
      · rw [getLocalRegistrationId, getLocal_wiped] at stored
        cases stored
      · rw [accounts]
        exact numbered

theorem registerAccount (sound : client.Sound p) (username : String) (draw : AccountDraw)
    (orderly : (getLocalRegistrationId client.archives).isSome → isLocalRegistered client.archives = true) :
    (client.step p (.registerAccount username draw : Step verify)).Sound p := by
  have identity : ∀ name ∈ ["identityKeyPairPrivateKey", "identityKeyPairPublicKey"],
      getLocal name (register username draw client.archives).2 = getLocal name client.archives := by
    intro name own
    apply getLocal_register
    simp only [List.mem_cons, List.not_mem_nil, or_false] at own
    rcases own with rfl | rfl <;> decide
  have preKeys := @get_register_of_ne PRE_KEYS_JSON_FILENAME (by decide) username draw client.archives
  have readable : Readable p (register username draw client.archives).2 :=
    (Operation.register username draw : Operation verify).run_readable sound.readable
  have uploaded : (getLocal "identityKeyPairPublicKey" (register username draw client.archives).2).isSome →
      Uploaded p client.uploads (register username draw client.archives).2 := by
    rw [identity _ (by simp)]
    exact fun own => (sound.uploaded own).congr (getIdentityKeyPair_congr identity) preKeys
  have mono : ∀ request : Request, request.Backed client.archives →
      request.Backed (register username draw client.archives).2 := by
    intro request backed
    exact backed.mono (by rw [identity _ (by simp)]; exact fun own => own) (registrationId_register username draw)
  rw [Client.step, Client.call]
  cases sent : register username draw client.archives with
  | mk result after =>
    rw [sent] at readable uploaded mono
    cases result with
    | error failure => exact ⟨readable, uploaded, sound.current.mono mono⟩
    | ok request =>
      refine ⟨readable, uploaded, (sound.current.mono mono).send ?_⟩
      rcases register_request sent with ⟨attributes, stored⟩ | ⟨accounts, numbered⟩
      · rw [attributes]
        exact mono .attributes (orderly stored)
      · rw [accounts]
        exact numbered

theorem answered (sound : client.Sound p) (index : Nat) (store : Bool) (exchange : Exchange) (generated : Generated verify)
    (orderly : (Step.answered index store exchange generated : Step verify).Orderly p client) :
    (client.step p (.answered index store exchange generated)).Sound p := by
  rw [Client.step, Client.call]
  cases found : client.waiting[index]? with
  | none => exact sound
  | some pending =>
    have rest := sound.answer index
    have backed : ∀ {dictionary}, SignalServer.call p exchange = .success dictionary →
        pending.request.Backed client.archives :=
      fun success => sound.current pending (List.mem_of_getElem? found) (orderly pending _ found success)
    obtain ⟨request, stale⟩ := pending
    dsimp only
    unfold Client.continued
    cases request with
    | attributes => cases SignalServer.call p exchange <;> exact rest
    | accounts =>
      cases success : SignalServer.call p exchange with
      | success dictionary =>
        exact rest.uploading true ⟨generated, 1, 100⟩ (by norm_num) (fun _ => backed success) (.inl (by norm_num))
      | _ => exact rest
    | keys registering => cases registering <;> cases SignalServer.call p exchange <;> exact rest
    | keysCount =>
      cases success : SignalServer.call p exchange with
      | success dictionary =>
        dsimp only
        cases checked : checkPreKeys store dictionary client.archives with
        | none => exact rest
        | some range =>
          obtain ⟨start, count⟩ := range
          have registered : isLocalRegistered client.archives = true := backed success
          rw [isLocalRegistered, Bool.and_eq_true] at registered
          exact rest.uploading false ⟨generated, start, count⟩ (checkPreKeys_start checked).1 nofun (.inr registered.1)
      | _ => exact rest

theorem step (sound : client.Sound p) (step : Step verify) (orderly : step.Orderly p client) :
    (client.step p step).Sound p := by
  cases step with
  | createClient username draw => exact sound.createClient username draw
  | registerAccount username draw => exact sound.registerAccount username draw orderly
  | resetAccount => exact ⟨readable_of_empty rfl rfl, nofun, sound.outdated _⟩
  | answered index store exchange generated => exact sound.answered index store exchange generated orderly

theorem steps (steps : List (Step verify))
    (orderly : ∀ done step, done ++ [step] <+: steps → step.Orderly p (Client.steps p done)) :
    ∀ done, done <+: steps → (Client.steps p done).Sound p :=
  foldl_invariant (fun _ step sound => sound.step step) fresh orderly

end Client.Sound

theorem Client.success_uploading {client : Client} (registering : Bool) (result : Registering × Archives) :
    (client.uploading registering result).1 ≠ some .success := by
  rcases result with ⟨_ | _ | _, archives⟩ <;> cases registering <;> nofun

theorem Client.success_cases {client : Client} {step : Step verify} (success : (client.call p step).1 = some .success) :
    ∃ index store exchange generated pending dictionary, step = .answered index store exchange generated ∧
      client.waiting[index]? = some pending ∧ SignalServer.call p exchange = .success dictionary ∧
      pending.request ∈ [.attributes, .keys true] ∧
      client.step p step = { client with waiting := client.waiting.eraseIdx index } := by
  cases step with
  | createClient username draw =>
    rw [Client.call] at success
    split at success <;> cases success
  | registerAccount username draw =>
    rw [Client.call] at success
    split at success <;> cases success
  | resetAccount => cases success
  | answered index store exchange generated =>
    rw [Client.step, Client.call] at *
    cases found : client.waiting[index]? with
    | none =>
      rw [found] at success
      cases success
    | some pending =>
      rw [found] at success
      obtain ⟨request, stale⟩ := pending
      dsimp only at success ⊢
      unfold Client.continued at success ⊢
      split at success
      · exact ⟨index, store, exchange, generated, _, _, rfl, found, ‹_›, by simp, rfl⟩
      · cases success
      · exact absurd success (Client.success_uploading _ _)
      · cases success
      · exact ⟨index, store, exchange, generated, _, _, rfl, found, ‹_›, by simp, rfl⟩
      · cases success
      · split at success
        · exact absurd success (Client.success_uploading _ _)
        · cases success
      · cases success

/-- Along every run in which a registration is repeated only once it is complete and no answer comes from before
    a deletion, whoever is told of a success is registered, with keys that the server was sent. -/
theorem success_means_registered (p : Platform) (steps : List (Step verify))
    (orderly : ∀ done step, done ++ [step] <+: steps → step.Orderly p (Client.steps p done)) (done : List (Step verify))
    (step : Step verify) (below : done ++ [step] <+: steps)
    (success : ((Client.steps p done).call p step).1 = some .success) :
    let client := Client.steps p (done ++ [step])
    isLocalRegistered client.archives = true ∧ Uploaded p client.uploads client.archives := by
  have sound := Client.Sound.steps steps orderly done ((List.prefix_append done [step]).trans below)
  obtain ⟨index, store, exchange, generated, pending, dictionary, rfl, found, answer, last, same⟩ := Client.success_cases success
  have current := sound.current pending (List.mem_of_getElem? found) (orderly done _ below pending dictionary found answer)
  have registered : isLocalRegistered (Client.steps p done).archives = true := by
    simp only [List.mem_cons, List.not_mem_nil, or_false] at last
    rcases last with request | request <;>
    · rw [request] at current
      exact current
  have after : Client.steps p (done ++ [.answered index store exchange generated]) =
      { Client.steps p done with waiting := (Client.steps p done).waiting.eraseIdx index } := by
    rw [← same, Client.steps, List.foldl_append]
    rfl
  rw [after]
  refine ⟨registered, sound.uploaded ?_⟩
  rw [isLocalRegistered, Bool.and_eq_true] at registered
  exact registered.1

section Interrupted

def firstDraw : AccountDraw := ⟨true, some 7, "k"⟩

def accepted : Exchange := .answered 204 []

def completed : List (Step everySignature) :=
  [.createClient "bob" firstDraw, .answered 0 true accepted sampleKeys, .answered 0 true accepted sampleKeys]

def interrupted : List (Step everySignature) :=
  [.createClient "bob" firstDraw, .answered 0 true .failed sampleKeys, .registerAccount "bob" firstDraw,
   .answered 0 true accepted sampleKeys]

theorem completed_registers :
    isLocalRegistered (Client.steps .plain completed).archives = true ∧
      Uploaded .plain (Client.steps .plain completed).uploads (Client.steps .plain completed).archives := by
  have accounts : (Client.steps .plain (completed.take 1)).waiting[0]? = some ⟨.accounts, false⟩ := by decide +kernel
  have keys : (Client.steps .plain (completed.take 2)).waiting[0]? = some ⟨.keys true, false⟩ := by decide +kernel
  refine success_means_registered .plain completed ?_ (completed.take 2) (.answered 0 true accepted sampleKeys)
    List.prefix_rfl (by decide +kernel)
  intro done step below
  obtain ⟨rest, same⟩ := below
  rcases done with _ | ⟨first, _ | ⟨second, _ | ⟨third, more⟩⟩⟩
  · cases same
    trivial
  · cases same
    intro pending dictionary found _
    rw [show ([Step.createClient "bob" firstDraw] : List (Step everySignature)) = completed.take 1 from rfl, accounts] at found
    cases found
    rfl
  · cases same
    intro pending dictionary found _
    rw [show ([Step.createClient "bob" firstDraw, Step.answered 0 true accepted sampleKeys] :
      List (Step everySignature)) = completed.take 2 from rfl, keys] at found
    cases found
    rfl
  · have lengths := congrArg List.length same
    simp [completed] at lengths

theorem interrupted_succeeds :
    ((Client.steps .plain (interrupted.take 3)).call .plain (.answered 0 true accepted sampleKeys)).1 = some .success ∧
      isLocalRegistered (Client.steps .plain interrupted).archives = false ∧
      (Client.steps .plain interrupted).uploads = [] := by
  decide +kernel

end Interrupted
end PillarSignal.Ios
