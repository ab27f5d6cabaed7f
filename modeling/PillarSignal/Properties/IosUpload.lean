import PillarSignal.Storage.Run
import PillarSignal.Ios.Client

namespace PillarSignal.Ios

open Storage ProtocolStorage DownloadsType SignalClient

variable {verify : Verify} {p : Platform}

def loadPreKey (p : Platform) (id : Int) (archives : Archives) : Option PreKeyRecord :=
  (PreKeyStorePillar.load p id archives).bind p.preKey.decode

def loadSignedPreKey (p : Platform) (id : Int) (archives : Archives) : Option SignedPreKeyRecord :=
  (SignedPreKeyStorePillar.load p id archives).bind p.signedPreKey.decode

structure Coherent (verify : Verify) (p : Platform) (archives : Archives) : Prop where
  preKey : ∀ id record, loadPreKey p id archives = some record → record.id = id
  signedPreKey : ∀ record, loadSignedPreKey p 1 archives = some record → record.id = 1 ∧
    ∃ identity, getIdentityKeyPair p archives = some identity ∧
      verify identity.publicKey record.keyPair.publicKey record.signature = true

structure KeepsKeys (before after : Archives) : Prop where
  identity : ∀ name ∈ ["identityKeyPairPrivateKey", "identityKeyPairPublicKey"],
    getLocal name after = getLocal name before
  signedPreKeys : get SIGNED_PRE_KEYS_JSON_FILENAME after = get SIGNED_PRE_KEYS_JSON_FILENAME before
  preKeys : ∀ key, (get PRE_KEYS_JSON_FILENAME after).lookup key = none ∨
    (get PRE_KEYS_JSON_FILENAME after).lookup key = (get PRE_KEYS_JSON_FILENAME before).lookup key

theorem KeepsKeys.of_same {before after : Archives} (same : ∀ type, type ∈ [LOCAL_JSON_FILENAME,
    SIGNED_PRE_KEYS_JSON_FILENAME, PRE_KEYS_JSON_FILENAME] → get type after = get type before) :
    KeepsKeys before after where
  identity name _ := by rw [getLocal, same _ (by simp), getLocal]
  signedPreKeys := same _ (by simp)
  preKeys key := .inr (by rw [same _ (by simp)])

theorem KeepsKeys.trans {a b c : Archives} (first : KeepsKeys a b) (second : KeepsKeys b c) : KeepsKeys a c where
  identity name own := (second.identity name own).trans (first.identity name own)
  signedPreKeys := second.signedPreKeys.trans first.signedPreKeys
  preKeys key := by
    rcases second.preKeys key with gone | same
    · exact .inl gone
    · rw [same]
      exact first.preKeys key

theorem Upkeep.keepsKeys {before after : Archives} (upkeep : Upkeep before after) : KeepsKeys before after where
  identity name _ := by rw [getLocal, upkeep.get_eq (by decide), getLocal]
  signedPreKeys := upkeep.get_eq (by decide)
  preKeys := upkeep.preKeys

theorem getIdentityKeyPair_congr {before after : Archives}
    (same : ∀ name ∈ ["identityKeyPairPrivateKey", "identityKeyPairPublicKey"],
      getLocal name after = getLocal name before) : getIdentityKeyPair p after = getIdentityKeyPair p before := by
  rw [getIdentityKeyPair, same _ (by simp), same _ (by simp), getIdentityKeyPair]

theorem loadSignedPreKey_congr {before after : Archives}
    (same : get SIGNED_PRE_KEYS_JSON_FILENAME after = get SIGNED_PRE_KEYS_JSON_FILENAME before) (id : Int) :
    loadSignedPreKey p id after = loadSignedPreKey p id before := by
  rw [loadSignedPreKey, loadSignedPreKey, SignedPreKeyStorePillar.load, loadData, loadData, same]

theorem loadPreKey_congr {before after : Archives}
    (same : get PRE_KEYS_JSON_FILENAME after = get PRE_KEYS_JSON_FILENAME before) (id : Int) :
    loadPreKey p id after = loadPreKey p id before := by
  rw [loadPreKey, loadPreKey, PreKeyStorePillar.load, loadData, loadData, same]

theorem Coherent.keeps {before after : Archives} (coherent : Coherent verify p before)
    (keeps : KeepsKeys before after) : Coherent verify p after := by
  refine ⟨fun id record loaded => ?_, fun record loaded => ?_⟩
  · apply coherent.preKey
    rw [loadPreKey, PreKeyStorePillar.load, loadData] at loaded ⊢
    rcases keeps.preKeys (Decimal.toText id) with gone | same
    · rw [gone] at loaded
      cases loaded
    · rwa [same] at loaded
  · rw [loadSignedPreKey_congr keeps.signedPreKeys] at loaded
    rw [getIdentityKeyPair_congr keeps.identity]
    exact coherent.signedPreKey record loaded

theorem coherent_of_empty {archives : Archives} (preKeys : get PRE_KEYS_JSON_FILENAME archives = [])
    (signedPreKeys : get SIGNED_PRE_KEYS_JSON_FILENAME archives = []) : Coherent verify p archives := by
  refine ⟨fun id record loaded => ?_, fun record loaded => ?_⟩
  · rw [loadPreKey, PreKeyStorePillar.load, loadData, preKeys] at loaded
    cases loaded
  · rw [loadSignedPreKey, SignedPreKeyStorePillar.load, loadData, signedPreKeys] at loaded
    cases loaded

section Registration

variable {archives : Archives} (generated : Generated verify)

theorem getIdentityKeyPair_store (keyPair : KeyPair) (archives : Archives) :
    getIdentityKeyPair p (storeIdentityKeyPair p keyPair archives) = some keyPair := by
  simp [getIdentityKeyPair, getLocal, storeIdentityKeyPair, lookup_put, asString, p.base64.decode_encode]

theorem loadIdentity_stored (archives : Archives) :
    getIdentityKeyPair p (loadIdentity p generated archives).2 = some (loadIdentity p generated archives).1 := by
  unfold loadIdentity
  cases stored : getIdentityKeyPair p archives with
  | some identity => exact stored
  | none => exact getIdentityKeyPair_store ..

theorem Coherent.loadIdentity (coherent : Coherent verify p archives) :
    Coherent verify p (loadIdentity p generated archives).2 := by
  refine ⟨fun id record loaded => ?_, fun record loaded => ?_⟩
  · rw [loadPreKey_congr (get_loadIdentity generated (by decide) archives)] at loaded
    exact coherent.preKey id record loaded
  · rw [loadSignedPreKey_congr (get_loadIdentity generated (by decide) archives)] at loaded
    obtain ⟨id, identity, stored, verified⟩ := coherent.signedPreKey record loaded
    refine ⟨id, identity, ?_, verified⟩
    rw [SignalClient.loadIdentity, stored]
    exact stored

theorem loadPreKey_store (data : PreKeyRecord) (id : Int) (archives : Archives) :
    loadPreKey p id (PreKeyStorePillar.store p (p.preKey.encode data) data.id archives) =
      if data.id = id then some data else loadPreKey p id archives := by
  rw [loadPreKey, PreKeyStorePillar.load, loadData, PreKeyStorePillar.store, storeData, get_save, if_pos rfl, lookup_put]
  by_cases same : data.id = id
  · simp [same, asString, p.base64.decode_encode, p.preKey.decode_encode]
  · have apart : Decimal.toText data.id ≠ Decimal.toText id := fun texts => same (Decimal.toText_injective texts)
    rw [if_neg apart, if_neg same]
    rfl

theorem loadPreKey_storePreKeys (preKeys : List PreKeyRecord) (id : Int) (archives : Archives) :
    loadPreKey p id (storePreKeys p preKeys archives) = lastWith id preKeys (loadPreKey p id archives) := by
  induction preKeys using List.reverseRecOn with
  | nil => rfl
  | append_singleton preKeys record ih =>
    rw [lastWith_append, ← ih, storePreKeys, List.foldl_append]
    exact loadPreKey_store record id _

theorem Coherent.storePreKeys (coherent : Coherent verify p archives) (preKeys : List PreKeyRecord) :
    Coherent verify p (storePreKeys p preKeys archives) := by
  have user : ∀ name, getLocal name (SignalClient.storePreKeys p preKeys archives) = getLocal name archives := by
    intro name
    rw [getLocal, get_storePreKeys (by decide), getLocal]
  refine ⟨fun id record loaded => ?_, fun record loaded => ?_⟩
  · rw [loadPreKey_storePreKeys] at loaded
    exact lastWith_id (coherent.preKey id) loaded
  · rw [loadSignedPreKey_congr (get_storePreKeys (by decide) ..)] at loaded
    rw [getIdentityKeyPair_congr fun name _ => user name]
    exact coherent.signedPreKey record loaded

theorem loadSigned_stored (identity : KeyPair) (archives : Archives) :
    loadSignedPreKey p 1 (loadSigned p generated identity archives).2 = (loadSigned p generated identity archives).1 := by
  unfold loadSigned
  cases stored : SignedPreKeyStorePillar.load p 1 archives with
  | some data => rw [loadSignedPreKey, stored, Option.bind_some]
  | none =>
    simp [loadSignedPreKey, SignedPreKeyStorePillar.load, SignedPreKeyStorePillar.store, loadData, storeData,
      Generated.signedPreKey, asString, p.base64.decode_encode, p.signedPreKey.decode_encode]

theorem identity_loadSigned (identity : KeyPair) (archives : Archives) :
    getIdentityKeyPair p (loadSigned p generated identity archives).2 = getIdentityKeyPair p archives := by
  apply getIdentityKeyPair_congr
  intro name _
  rw [getLocal, get_loadSigned generated (by decide), getLocal]

theorem Coherent.loadSigned (coherent : Coherent verify p archives) {identity : KeyPair}
    (own : getIdentityKeyPair p archives = some identity) :
    Coherent verify p (loadSigned p generated identity archives).2 := by
  have user := (identity_loadSigned generated identity archives).trans own
  refine ⟨fun id record loaded => ?_, fun record loaded => ?_⟩
  · rw [loadPreKey_congr (get_loadSigned generated (by decide) ..)] at loaded
    exact coherent.preKey id record loaded
  · rw [loadSigned_stored] at loaded
    rw [user]
    unfold SignalClient.loadSigned at loaded
    cases stored : SignedPreKeyStorePillar.load p 1 archives with
    | some data =>
      rw [stored] at loaded
      rw [← own]
      exact coherent.signedPreKey record (by rw [loadSignedPreKey, stored]; exact loaded)
    | none =>
      rw [stored] at loaded
      cases loaded
      exact ⟨rfl, identity, rfl, generated.signature_verifies identity⟩

def Batch.identity (p : Platform) (batch : Batch verify) (archives : Archives) : KeyPair :=
  (SignalClient.loadIdentity p batch.generated archives).1

def Batch.preKeys (batch : Batch verify) : List PreKeyRecord :=
  batch.generated.preKeys unsigned batch.start batch.count.toNat

def Batch.stored (p : Platform) (batch : Batch verify) (archives : Archives) : Archives :=
  SignalClient.storePreKeys p batch.preKeys (SignalClient.loadIdentity p batch.generated archives).2

def Batch.signed (p : Platform) (batch : Batch verify) (archives : Archives) : Option SignedPreKeyRecord × Archives :=
  SignalClient.loadSigned p batch.generated (batch.identity p archives) (batch.stored p archives)

theorem Batch.register_cases (batch : Batch verify) (archives : Archives) :
    (∃ lastResortKey signedPreKey, batch.register p archives =
      (.upload ⟨lastResortKey, batch.preKeys, (batch.identity p archives).publicKey, signedPreKey⟩,
        (batch.signed p archives).2) ∧
      loadLastRecord p batch.generated (SignalClient.loadIdentity p batch.generated archives).2 = some lastResortKey ∧
      (batch.signed p archives).1 = some signedPreKey) ∨
    ((∀ upload, (batch.register p archives).1 ≠ .upload upload) ∧
      ((batch.register p archives).2 = (SignalClient.loadIdentity p batch.generated archives).2 ∨
       (batch.register p archives).2 = (batch.signed p archives).2)) := by
  unfold Batch.register registerPreKeys
  dsimp only
  rw [← Batch.preKeys, ← Batch.stored, ← Batch.identity, ← Batch.signed]
  split
  · split
    · rename_i later signed
      rw [signed]
      exact .inr ⟨nofun, .inr rfl⟩
    · rename_i signedPreKey later signed
      rw [signed]
      split
      · exact .inr ⟨nofun, .inr rfl⟩
      · rename_i lastResortKey last
        exact .inl ⟨lastResortKey, signedPreKey, rfl, last, rfl⟩
  · exact .inr ⟨nofun, .inl rfl⟩

theorem Batch.identity_stored (batch : Batch verify) (archives : Archives) :
    getIdentityKeyPair p (batch.stored p archives) = some (batch.identity p archives) := by
  rw [Batch.identity, ← loadIdentity_stored batch.generated archives, Batch.stored]
  apply getIdentityKeyPair_congr
  intro name _
  rw [getLocal, get_storePreKeys (by decide), getLocal]

theorem Coherent.register (coherent : Coherent verify p archives) (batch : Batch verify) :
    Coherent verify p (batch.register p archives).2 := by
  have named := coherent.loadIdentity batch.generated
  have signed := (named.storePreKeys batch.preKeys).loadSigned batch.generated (batch.identity_stored archives)
  rcases @Batch.register_cases verify p batch archives with ⟨_, _, same, _⟩ | ⟨_, same | same⟩ <;> rw [same]
  · exact signed
  · exact named
  · exact signed

structure Backed (verify : Verify) (p : Platform) (upload : Upload) (archives : Archives) : Prop where
  lastResortKey : ∃ record, loadPreKey p upload.lastResortKey.id archives = some record ∧
    record.id = upload.lastResortKey.id ∧ record.keyPair.publicKey = upload.lastResortKey.keyPair.publicKey
  preKeys : ∀ uploaded ∈ upload.preKeys, ∃ record, loadPreKey p uploaded.id archives = some record ∧
    record.id = uploaded.id ∧ record.keyPair.publicKey = uploaded.keyPair.publicKey
  signedPreKey : loadSignedPreKey p upload.signedPreKey.id archives = some upload.signedPreKey
  identityKey : ∃ identity, getIdentityKeyPair p archives = some identity ∧ identity.publicKey = upload.identityKey ∧
    verify identity.publicKey upload.signedPreKey.keyPair.publicKey upload.signedPreKey.signature = true

/-- The keys of a batch are none that is stored as the last resort key. -/
def Batch.Fresh (p : Platform) (batch : Batch verify) (archives : Archives) : Prop :=
  ∀ record, loadPreKey p lastPreKeyIndex archives = some record →
    ∀ i, (batch.generated.preKeyPair i).publicKey ≠ record.keyPair.publicKey

theorem loadLastRecord_eq {lastResortKey : PreKeyRecord}
    (last : loadLastRecord p generated archives = some lastResortKey) :
    loadPreKey p lastPreKeyIndex archives = some lastResortKey ∨
      (loadPreKey p lastPreKeyIndex archives = none ∧
        lastResortKey = ⟨lastPreKeyIndex, generated.lastResortKeyPair⟩) := by
  unfold loadLastRecord at last
  rw [loadPreKey]
  split at last
  · rename_i data stored
    rw [stored]
    exact .inl last
  · rename_i missing
    rw [missing]
    cases last
    exact .inr ⟨rfl, by congr 1⟩

theorem lastResort_iff {lastResortKey : PreKeyRecord} {batch : Batch verify} (coherent : Coherent verify p archives)
    (fresh : batch.Fresh p archives) (last : loadLastRecord p batch.generated archives = some lastResortKey) :
    (∃ record, lastWith lastResortKey.id batch.preKeys
        (loadPreKey p lastResortKey.id archives) = some record ∧
      record.id = lastResortKey.id ∧ record.keyPair.publicKey = lastResortKey.keyPair.publicKey) ↔
    (loadPreKey p lastPreKeyIndex archives).isSome ∧
      lastPreKeyIndex ∉ preKeyIds unsigned batch.start batch.count.toNat := by
  have batched : lastPreKeyIndex ∈ preKeyIds unsigned batch.start batch.count.toNat → ∀ stored, ∃ i,
      ∃ record, lastWith lastPreKeyIndex batch.preKeys stored =
        some record ∧ record.keyPair = batch.generated.preKeyPair i := by
    intro member stored
    rw [← Generated.preKeys_ids batch.generated] at member
    obtain ⟨record, made, found⟩ := lastWith_mem member stored
    obtain ⟨i, _, rfl⟩ := List.mem_map.mp made
    exact ⟨i, _, found, rfl⟩
  have unbatched : lastPreKeyIndex ∉ preKeyIds unsigned batch.start batch.count.toNat → ∀ stored,
      lastWith lastPreKeyIndex batch.preKeys stored = stored := by
    intro absent stored
    rw [← Generated.preKeys_ids batch.generated] at absent
    exact lastWith_of_not_mem absent stored
  rcases loadLastRecord_eq batch.generated last with stored | ⟨missing, rfl⟩
  · have id := coherent.preKey _ _ stored
    rw [id, stored]
    constructor
    · rintro ⟨record, found, _, same⟩
      refine ⟨rfl, fun member => ?_⟩
      obtain ⟨i, other, held, key⟩ := batched member (some lastResortKey)
      rw [found] at held
      cases held
      exact fresh _ stored i (key ▸ same)
    · rintro ⟨_, absent⟩
      exact ⟨lastResortKey, unbatched absent _, id, rfl⟩
  · dsimp only
    rw [missing]
    constructor
    · rintro ⟨record, found, _, same⟩
      by_cases member : lastPreKeyIndex ∈ preKeyIds unsigned batch.start batch.count.toNat
      · obtain ⟨i, other, held, key⟩ := batched member none
        rw [found] at held
        cases held
        exact absurd (key ▸ same) (batch.generated.lastResort_fresh i)
      · rw [unbatched member] at found
        cases found
    · rintro ⟨absent, _⟩
      cases absent

theorem Batch.backed_iff {batch : Batch verify} {upload : Upload} {after : Archives} (coherent : Coherent verify p archives)
    (fresh : batch.Fresh p archives) (sent : batch.register p archives = (.upload upload, after)) :
    Backed verify p upload after ↔ (loadPreKey p lastPreKeyIndex archives).isSome ∧
      lastPreKeyIndex ∉ preKeyIds unsigned batch.start batch.count.toNat ∧
      (preKeyIds unsigned batch.start batch.count.toNat).Nodup := by
  rcases @Batch.register_cases verify p batch archives with ⟨lastResortKey, signedPreKey, same, last, signed⟩ | ⟨none_sent, _⟩
  swap
  · exact absurd (congrArg Prod.fst sent) (none_sent upload)
  have final := coherent.register batch
  rw [same] at sent final
  cases sent
  have named_keys := @get_loadIdentity p verify batch.generated PRE_KEYS_JSON_FILENAME (by decide) archives
  have named_last := @loadPreKey_congr p archives _ named_keys
  have loaded : ∀ id, loadPreKey p id (batch.signed p archives).2 =
      lastWith id batch.preKeys (loadPreKey p id archives) := by
    intro id
    rw [Batch.signed, loadPreKey_congr (get_loadSigned batch.generated (by decide) ..), Batch.stored,
      loadPreKey_storePreKeys, named_last]
  have lastResort := lastResort_iff (coherent.loadIdentity batch.generated)
    (by rw [Batch.Fresh, named_last]; exact fresh) last
  have kept := kept_iff (batch.generated.preKeys_fresh unsigned batch.start batch.count.toNat)
    (fun id => loadPreKey p id archives)
  simp only [named_last, ← loaded] at lastResort
  rw [Generated.preKeys_ids, ← Batch.preKeys] at kept
  simp only [Kept, ← loaded] at kept
  have stored := loadSigned_stored (p := p) batch.generated (batch.identity p archives) (batch.stored p archives)
  rw [← Batch.signed, signed] at stored
  obtain ⟨id, identity, own, verified⟩ := final.signedPreKey signedPreKey stored
  rw [← and_assoc, ← lastResort, ← kept]
  constructor
  · intro backed
    exact ⟨backed.lastResortKey, backed.preKeys⟩
  · rintro ⟨lastResortKey, preKeys⟩
    refine ⟨lastResortKey, preKeys, ?_, ⟨identity, own, ?_, verified⟩⟩
    · dsimp only
      rw [id, stored]
    · rw [Batch.signed, identity_loadSigned, batch.identity_stored] at own
      cases own
      rfl

end Registration

theorem keepsKeys_saveAllMessages (tag : String) (localJson : Dictionary) (archives : Archives) :
    KeepsKeys archives (MessagesStorage.saveAllMessages tag localJson archives) := by
  apply KeepsKeys.of_same
  intro type own
  refine MessagesStorage.get_saveAllMessages ?_ tag localJson archives
  simp only [List.mem_cons, List.not_mem_nil, or_false] at own
  rcases own with rfl | rfl | rfl <;> decide

theorem keepsKeys_save (message : ParsedMessageDTO) (username tag : String) (archives : Archives) :
    KeepsKeys archives (MessagesStorage.save message username tag archives) := keepsKeys_saveAllMessages ..

theorem keepsKeys_deleteContactMessages (username tag : String) (archives : Archives) :
    KeepsKeys archives (MessagesStorage.deleteContactMessages username tag archives) := keepsKeys_saveAllMessages ..

theorem Delivers.keepsKeys {username tag : String} {before after : Archives} {messages : List ParsedMessageDTO}
    (delivers : SignalClient.Delivers username tag before messages after) : KeepsKeys before after := by
  induction delivers with
  | done upkeep => exact upkeep.keepsKeys
  | next upkeep _ ih => exact upkeep.keepsKeys.trans ((keepsKeys_save ..).trans ih)

theorem keepsKeys_decryptSignalMessage (store : Bool) (messageTag : String) (received : List Char) (draw : Draw)
    (archives : Archives) : KeepsKeys archives (decryptSignalMessage p store messageTag received draw archives).2 := by
  rw [decryptSignalMessage_archives]
  cases pushedMessage p store received archives with
  | none => exact .of_same fun _ _ => rfl
  | some message =>
    have upkeep := upkeep_decrypt p ⟨message.source, 1⟩ draw.attempts archives
    dsimp only
    split
    · exact upkeep.keepsKeys
    · exact upkeep.keepsKeys.trans (keepsKeys_save ..)

theorem Operation.run_cases (operation : Operation verify) (archives : Archives) :
    KeepsKeys archives (operation.run p archives) ∨
    (operation.wipes archives = true ∧ get PRE_KEYS_JSON_FILENAME (operation.run p archives) = [] ∧
      get SIGNED_PRE_KEYS_JSON_FILENAME (operation.run p archives) = []) ∨
    ∃ batch : Batch verify, operation.run p archives = (batch.register p archives).2 := by
  have same : KeepsKeys archives archives := .of_same fun _ _ => rfl
  have register : ∀ found : Option (Batch verify), KeepsKeys archives
      (found.elim archives fun batch => (batch.register p archives).2) ∨
      ∃ batch : Batch verify, (found.elim archives fun batch => (batch.register p archives).2) =
        (batch.register p archives).2 := by
    intro found
    cases found with
    | none => exact .inl same
    | some batch => exact .inr ⟨batch, rfl⟩
  cases operation with
  | createClient username draw =>
    rcases RNSignalClientModule.createClient_cases username draw archives with ⟨kept, _⟩ | ⟨result, after, sent, registered⟩
    · rw [Operation.run, kept]
      exact .inl same
    · have wipes : (Operation.createClient username draw : Operation verify).wipes archives = true := by
        rw [Operation.wipes, registered]
        cases result <;> rfl
      refine .inr (.inl ⟨wipes, ?_, ?_⟩) <;>
      · rw [Operation.run, registered, ← congrArg Prod.snd sent, SignalClient.get_register_of_ne (by decide), ProtocolStorage.get,
          RNSignalClientModule.wiped_protocol archives (by simp)]
        rfl
  | register username draw =>
    refine .inl ⟨fun name own => ?_, SignalClient.get_register_of_ne (by decide) .., fun key => .inr ?_⟩
    · apply SignalClient.getLocal_register
      simp only [List.mem_cons, List.not_mem_nil, or_false] at own
      rcases own with rfl | rfl <;> decide
    · rw [Operation.run, SignalClient.get_register_of_ne (by decide)]
  | accountAnswered exchange generated =>
    rw [Operation.run_accountAnswered]
    exact (register _).imp id .inr
  | checkPreKeys store exchange generated =>
    rw [Operation.run_checkPreKeys]
    exact (register _).imp id .inr
  | resetAccount => exact .inr (.inl ⟨rfl, rfl, rfl⟩)
  | addContact store username forceAdd exchange process =>
    exact .inl (RNSignalClientModule.upkeep_addContact ..).keepsKeys
  | deleteContact store username =>
    obtain ⟨between, removed, cleared⟩ := RNSignalClientModule.upkeep_deleteContact store username archives
    rw [Operation.run, cleared]
    exact .inl (removed.keepsKeys.trans ((keepsKeys_deleteContactMessages ..).trans
      ((keepsKeys_deleteContactMessages ..).trans (keepsKeys_deleteContactMessages ..))))
  | deleteContactMessages username messageTag => exact .inl (keepsKeys_deleteContactMessages ..)
  | getContactMessages store username messageTag decodeAndSave exchange draws =>
    rw [Operation.run, SignalClient.getContactMessages]
    split
    · exact .inl (Delivers.keepsKeys (parseMessages_delivers ..))
    · exact .inl same
  | decryptSignalMessage store messageTag receivedMessage draw => exact .inl (keepsKeys_decryptSignalMessage ..)
  | prepareApiBody store out encryption => exact .inl (upkeep_prepareApiBody ..).keepsKeys
  | sendMessage self out rounds =>
    have writes := @sendMessage_writes p self out rounds archives
    unfold SignalClient.Sending.Writes at writes
    split at writes
    · exact .inl writes.keepsKeys
    · obtain ⟨between, upkeep, stored⟩ := writes
      rw [Operation.run, stored]
      exact .inl (upkeep.keepsKeys.trans (keepsKeys_save ..))
  | saveSentMessage self messageTag username messageString timestamp => exact .inl (keepsKeys_save ..)

theorem Operation.run_coherent {archives : Archives} (operation : Operation verify)
    (coherent : Coherent verify p archives) : Coherent verify p (operation.run p archives) := by
  rcases operation.run_cases (p := p) archives with keeps | ⟨_, preKeys, signedPreKeys⟩ | ⟨batch, same⟩
  · exact coherent.keeps keeps
  · exact coherent_of_empty preKeys signedPreKeys
  · rw [same]
    exact coherent.register batch

theorem runs_coherent {archives : Archives} (coherent : Coherent verify p archives) (operations : List (Operation verify)) :
    Coherent verify p (runs p operations archives) :=
  foldl_invariant (fun _ operation coherent (_ : True) => operation.run_coherent coherent) coherent
    (fun _ _ _ => trivial) operations List.prefix_rfl

theorem Operation.batch_run {archives : Archives} {operation : Operation verify} {batch : Batch verify}
    (asked : operation.batch p archives = some batch) : operation.run p archives = (batch.register p archives).2 := by
  cases operation with
  | accountAnswered exchange generated => simp only [Operation.run, asked]
  | checkPreKeys store exchange generated => simp only [Operation.run, asked]
  | _ => cases asked

end PillarSignal.Ios
