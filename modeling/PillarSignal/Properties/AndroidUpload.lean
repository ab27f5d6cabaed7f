import PillarSignal.Storage.Run
import PillarSignal.Android.Client

namespace PillarSignal.Android

open Storage ProtocolStorage StorageFile

variable {verify : Verify} {p : Platform}

/-- What is stored about the user's own keys fits together. -/
structure Coherent (verify : Verify) (p : Platform) (files : Files) : Prop where
  user : Parsed p LOCAL_JSON_FILENAME files
  preKeys : Parsed p PRE_KEYS_JSON_FILENAME files
  signedPreKeys : Parsed p SIGNED_PRE_KEYS_JSON_FILENAME files
  identity : getIdentityKeyPair p files = none → localField p "identityKeyPair" files = none
  preKey : ∀ id record, loadPreKey p id files = some record → record.id = id
  signedPreKey : ∀ record, loadSignedPreKey p 0 files = some record → record.id = 0 ∧
    ∃ identity, getIdentityKeyPair p files = some identity ∧
      verify identity.publicKey record.keyPair.publicKey record.signature = true

structure KeepsKeys (p : Platform) (before after : Files) : Prop where
  user : readObject p LOCAL_JSON_FILENAME after = readObject p LOCAL_JSON_FILENAME before
  signedPreKeys : readObject p SIGNED_PRE_KEYS_JSON_FILENAME after = readObject p SIGNED_PRE_KEYS_JSON_FILENAME before
  parsed : Parsed p PRE_KEYS_JSON_FILENAME before → Parsed p PRE_KEYS_JSON_FILENAME after
  preKeys : ∀ key, entry p PRE_KEYS_JSON_FILENAME key after = none ∨
    entry p PRE_KEYS_JSON_FILENAME key after = entry p PRE_KEYS_JSON_FILENAME key before

theorem KeepsKeys.of_same {before after : Files} (same : ∀ file, file ∈ [LOCAL_JSON_FILENAME,
    SIGNED_PRE_KEYS_JSON_FILENAME, PRE_KEYS_JSON_FILENAME] → readObject p file after = readObject p file before) :
    KeepsKeys p before after where
  user := same _ (by simp)
  signedPreKeys := same _ (by simp)
  parsed := by
    intro parsed
    rw [Parsed, same _ (by simp)]
    exact parsed
  preKeys key := .inr (entry_congr (same _ (by simp)) key)

theorem KeepsKeys.trans {a b c : Files} (first : KeepsKeys p a b) (second : KeepsKeys p b c) : KeepsKeys p a c where
  user := second.user.trans first.user
  signedPreKeys := second.signedPreKeys.trans first.signedPreKeys
  parsed := second.parsed ∘ first.parsed
  preKeys key := by
    rcases second.preKeys key with gone | same
    · exact .inl gone
    · rw [same]
      exact first.preKeys key

theorem keepsKeys_removePreKey {files : Files} (sound : files.Sound) (preKeyId : Int) :
    KeepsKeys p files (removePreKey p preKeyId files) := by
  have user : readObject p LOCAL_JSON_FILENAME (removePreKey p preKeyId files) = readObject p LOCAL_JSON_FILENAME files :=
    readObject_updateObject_of_ne (by decide) ..
  have signed : readObject p SIGNED_PRE_KEYS_JSON_FILENAME (removePreKey p preKeyId files) =
      readObject p SIGNED_PRE_KEYS_JSON_FILENAME files := readObject_updateObject_of_ne (by decide) ..
  rcases @readObject_updateObject_sound p files sound PRE_KEYS_JSON_FILENAME fun data =>
    if OrgJson.has data (valueOf preKeyId) then some (erase (valueOf preKeyId) data) else none with same | edited
  · apply KeepsKeys.of_same
    intro file own
    simp only [List.mem_cons, List.not_mem_nil, or_false] at own
    rcases own with rfl | rfl | rfl
    · exact user
    · exact signed
    · exact same
  · refine ⟨user, signed, fun ⟨data, held⟩ => ?_, fun key => ?_⟩
    · rw [held] at edited
      exact ⟨_, edited⟩
    · rw [entry, removePreKey, removeKey, edited, entry]
      cases readObject p PRE_KEYS_JSON_FILENAME files with
      | error e => exact .inl rfl
      | ok data =>
        simp only [Except.map]
        split
        · rw [Option.getD_some, lookup_erase]
          split
          · exact .inl rfl
          · exact .inr rfl
        · exact .inr rfl

theorem ProtocolStorage.Upkeep.keepsKeys {before after : Files} (upkeep : Upkeep p before after) (sound : before.Sound) :
    KeepsKeys p before after := by
  have edited : ∀ (file : StorageFile) (edit : JSONObject → Option JSONObject) (files : Files),
      file ∉ [LOCAL_JSON_FILENAME, SIGNED_PRE_KEYS_JSON_FILENAME, PRE_KEYS_JSON_FILENAME] →
      KeepsKeys p files (updateObject p file edit files) := by
    intro file edit files other
    apply KeepsKeys.of_same
    intro own member
    have apart : file ≠ own := by
      rintro rfl
      exact other member
    exact readObject_updateObject_of_ne apart edit files
  induction upkeep with
  | refl => exact .of_same fun _ _ => rfl
  | saveIdentity _ address identityKey ih => exact ih.trans (edited _ _ _ (by decide))
  | removeIdentity _ address ih => exact ih.trans (edited _ _ _ (by decide))
  | storeSession upkeep address record ih =>
    refine ih.trans (.of_same fun file own => readObject_storeSession_of_ne ?_ address record _)
    rintro rfl
    simp at own
  | deleteSession _ address ih => exact ih.trans (edited _ _ _ (by decide))
  | removePreKey upkeep preKeyId ih => exact ih.trans (keepsKeys_removePreKey (upkeep.framed.sound sound) preKeyId)

theorem getIdentityKeyPair_congr {before after : Files}
    (same : entry p LOCAL_JSON_FILENAME "identityKeyPair" after = entry p LOCAL_JSON_FILENAME "identityKeyPair" before) :
    localField p "identityKeyPair" after = localField p "identityKeyPair" before ∧
      getIdentityKeyPair p after = getIdentityKeyPair p before := by
  have field : localField p "identityKeyPair" after = localField p "identityKeyPair" before := by
    rw [localField_eq, localField_eq, same]
  exact ⟨field, by rw [getIdentityKeyPair, getIdentityKeyPair, field]⟩

theorem loadSignedPreKey_congr {before after : Files}
    (same : readObject p SIGNED_PRE_KEYS_JSON_FILENAME after = readObject p SIGNED_PRE_KEYS_JSON_FILENAME before)
    (id : Int) : loadSignedPreKey p id after = loadSignedPreKey p id before := by
  rw [loadSignedPreKey, loadRecord_eq, loadRecord_eq, entry_congr same]

theorem loadPreKey_congr {before after : Files}
    (same : readObject p PRE_KEYS_JSON_FILENAME after = readObject p PRE_KEYS_JSON_FILENAME before)
    (id : Int) : loadPreKey p id after = loadPreKey p id before := by
  rw [loadPreKey, loadRecord_eq, loadRecord_eq, entry_congr same]

theorem Coherent.keeps {before after : Files} (coherent : Coherent verify p before) (keeps : KeepsKeys p before after) :
    Coherent verify p after := by
  obtain ⟨field, identity⟩ := getIdentityKeyPair_congr (entry_congr keeps.user "identityKeyPair")
  refine ⟨?_, keeps.parsed coherent.preKeys, ?_, ?_, fun id record loaded => ?_, fun record loaded => ?_⟩
  · rw [Parsed, keeps.user]
    exact coherent.user
  · rw [Parsed, keeps.signedPreKeys]
    exact coherent.signedPreKeys
  · rw [identity, field]
    exact coherent.identity
  · apply coherent.preKey
    rw [loadPreKey, loadRecord_eq] at loaded ⊢
    rcases keeps.preKeys (valueOf id) with gone | same
    · rw [gone] at loaded
      cases loaded
    · rwa [same] at loaded
  · rw [loadSignedPreKey_congr keeps.signedPreKeys] at loaded
    rw [identity]
    exact coherent.signedPreKey record loaded

theorem coherent_of_empty {files : Files} (empty : ∀ file, readObject p file files = .ok []) :
    Coherent verify p files := by
  have absent : ∀ file key, entry p file key files = none := by
    intro file key
    rw [entry, empty]
    rfl
  refine ⟨⟨_, empty _⟩, ⟨_, empty _⟩, ⟨_, empty _⟩, fun _ => ?_, fun id record loaded => ?_, fun record loaded => ?_⟩
  · rw [localField_eq, absent]
    rfl
  · rw [loadPreKey, loadRecord_eq, absent] at loaded
    cases loaded
  · rw [loadSignedPreKey, loadRecord_eq, absent] at loaded
    cases loaded

theorem Coherent.registerAccount {files : Files} (coherent : Coherent verify p files) (ready : Ready p files)
    (username : String) (draw : AccountDraw) : Coherent verify p (SignalClient.registerAccount p username draw files).2 := by
  have updates := SignalClient.registerAccount_updates p username draw files
  have signed := updates.readObject_of_ne (show LOCAL_JSON_FILENAME ≠ SIGNED_PRE_KEYS_JSON_FILENAME by decide)
  have preKeys := updates.readObject_of_ne (show LOCAL_JSON_FILENAME ≠ PRE_KEYS_JSON_FILENAME by decide)
  obtain ⟨field, identity⟩ := getIdentityKeyPair_congr
    (SignalClient.entry_registerAccount p username draw ready (show "identityKeyPair" ∉ _ by decide))
  refine ⟨updates.parsed ready coherent.user, ?_, ?_, ?_, fun id record loaded => ?_, fun record loaded => ?_⟩
  · rw [Parsed, preKeys]
    exact coherent.preKeys
  · rw [Parsed, signed]
    exact coherent.signedPreKeys
  · rw [identity, field]
    exact coherent.identity
  · rw [loadPreKey_congr preKeys] at loaded
    exact coherent.preKey id record loaded
  · rw [loadSignedPreKey_congr signed] at loaded
    rw [identity]
    exact coherent.signedPreKey record loaded

section Registration

variable {files : Files} (generated : Generated verify)

theorem loadIdentity_stored (coherent : Coherent verify p files) (ready : Ready p files) :
    getIdentityKeyPair p (SignalClient.loadIdentity p generated files).2 =
      some (SignalClient.loadIdentity p generated files).1 := by
  unfold SignalClient.loadIdentity
  cases stored : getIdentityKeyPair p files with
  | some identity => exact stored
  | none =>
    have made := entry_storeOnce_self ready coherent.user (coherent.identity stored)
      (.str (p.texts.identityKeyPair.encode generated.identityKeyPair))
    have field : localField p "identityKeyPair" (storeIdentityKeyPair p generated.identityKeyPair files) =
        some (.str (p.texts.identityKeyPair.encode generated.identityKeyPair)) := by
      rw [localField_eq, storeIdentityKeyPair, made]
      simp
    dsimp only
    rw [getIdentityKeyPair, field]
    exact p.texts.identityKeyPair.decode_encode _

theorem loadIdentity_of_stored {identity : KeyPair} (stored : getIdentityKeyPair p files = some identity) :
    (SignalClient.loadIdentity p generated files).1 = identity := by
  rw [SignalClient.loadIdentity, stored]

theorem loadRecord_storeRecord {α : Type} (codec : TextCodec α) {file : StorageFile} (ready : Ready p files)
    (parsed : Parsed p file files) (key name : String) (record : α) :
    loadRecord p codec file name (storeRecord p codec file key record files) =
      if key = name then some record else loadRecord p codec file name files := by
  rw [loadRecord_eq, loadRecord_eq, storeRecord, entry_put ready parsed]
  by_cases same : key = name
  · simp [same, OrgJson.toText, codec.decode_encode]
  · simp [same]

theorem loadPreKey_storePreKeys (ready : Ready p files) (parsed : Parsed p PRE_KEYS_JSON_FILENAME files)
    (preKeys : List PreKeyRecord) (id : Int) :
    loadPreKey p id (SignalClient.storePreKeys p preKeys files) = lastWith id preKeys (loadPreKey p id files) := by
  induction preKeys using List.reverseRecOn with
  | nil => rfl
  | append_singleton preKeys record ih =>
    have updates := @SignalClient.storePreKeys_updates p preKeys files
    have stored := loadRecord_storeRecord p.texts.preKey (updates.framed.ready ready) (updates.parsed ready parsed)
      (valueOf record.id) (valueOf id) record
    rw [lastWith_append, ← ih, loadPreKey, SignalClient.storePreKeys, List.foldl_append]
    simp only [valueOf_injective.eq_iff] at stored
    exact stored

theorem loadSigned_stored (ready : Ready p files) (parsed : Parsed p SIGNED_PRE_KEYS_JSON_FILENAME files)
    {identity : KeyPair} (signed : ∀ record, loadSignedPreKey p 0 files = some record → record.id = 0 ∧
      verify identity.publicKey record.keyPair.publicKey record.signature = true) :
    let signedPreKey := (SignalClient.loadSigned p generated identity files).1
    loadSignedPreKey p 0 (SignalClient.loadSigned p generated identity files).2 = some signedPreKey ∧
      signedPreKey.id = 0 ∧ verify identity.publicKey signedPreKey.keyPair.publicKey signedPreKey.signature = true := by
  unfold SignalClient.loadSigned
  cases stored : loadSignedPreKey p 0 files with
  | some signedPreKey => exact ⟨stored, signed signedPreKey stored⟩
  | none =>
    have kept := loadRecord_storeRecord p.texts.signedPreKey ready parsed (valueOf 0) (valueOf 0)
      (generated.signedPreKey identity 0)
    rw [if_pos rfl] at kept
    exact ⟨kept, rfl, generated.signature_verifies identity⟩

/-- Every key of an upload can be loaded again, and the signed one was signed with the stored identity. -/
structure Backed (verify : Verify) (p : Platform) (upload : Upload) (files : Files) : Prop where
  lastResortKey : ∃ record, loadPreKey p upload.lastResortKey.id files = some record ∧
    record.id = upload.lastResortKey.id ∧ record.keyPair.publicKey = upload.lastResortKey.keyPair.publicKey
  preKeys : ∀ uploaded ∈ upload.preKeys, ∃ record, loadPreKey p uploaded.id files = some record ∧
    record.id = uploaded.id ∧ record.keyPair.publicKey = uploaded.keyPair.publicKey
  signedPreKey : loadSignedPreKey p upload.signedPreKey.id files = some upload.signedPreKey
  identityKey : ∃ identity, getIdentityKeyPair p files = some identity ∧ identity.publicKey = upload.identityKey ∧
    verify identity.publicKey upload.signedPreKey.keyPair.publicKey upload.signedPreKey.signature = true

structure Registered (p : Platform) (batch : Batch verify) (files : Files) : Prop where
  framed : Framed p files (batch.register p files).2
  user : Parsed p LOCAL_JSON_FILENAME (batch.register p files).2
  preKeys : Parsed p PRE_KEYS_JSON_FILENAME (batch.register p files).2
  signedPreKeys : Parsed p SIGNED_PRE_KEYS_JSON_FILENAME (batch.register p files).2
  preKey : ∀ id, loadPreKey p id (batch.register p files).2 =
    lastWith id (batch.generated.preKeys toInt batch.start batch.count.toNat) (loadPreKey p id files)
  lastResortKey : (batch.register p files).1.lastResortKey =
    (loadPreKey p MEDIUM_MAX_VALUE files).getD ⟨MEDIUM_MAX_VALUE, batch.generated.lastResortKeyPair⟩
  identityKey : ∃ identity, getIdentityKeyPair p (batch.register p files).2 = some identity ∧
    identity.publicKey = (batch.register p files).1.identityKey ∧ verify identity.publicKey
      (batch.register p files).1.signedPreKey.keyPair.publicKey (batch.register p files).1.signedPreKey.signature = true
  signedPreKey : loadSignedPreKey p 0 (batch.register p files).2 = some (batch.register p files).1.signedPreKey ∧
    (batch.register p files).1.signedPreKey.id = 0

theorem registerPreKeys_eq (batch : Batch verify) (files : Files) :
    let (identity, named) := SignalClient.loadIdentity p batch.generated files
    let preKeys := batch.generated.preKeys toInt batch.start batch.count.toNat
    let signed := SignalClient.loadSigned p batch.generated identity (SignalClient.storePreKeys p preKeys named)
    batch.register p files =
      (⟨SignalClient.loadLastResort p batch.generated named, preKeys, identity.publicKey, signed.1⟩, signed.2) := rfl

theorem Coherent.registered (coherent : Coherent verify p files) (ready : Ready p files) (batch : Batch verify) :
    Registered p batch files := by
  have shape := @registerPreKeys_eq verify p batch files
  dsimp only at shape
  have first := @SignalClient.loadIdentity_updates p verify batch.generated files
  have own := loadIdentity_stored batch.generated coherent ready
  have same := fun identity => @loadIdentity_of_stored verify p files batch.generated identity
  generalize SignalClient.loadIdentity p batch.generated files = named at shape first own same
  have named_ready := first.framed.ready ready
  have named_keys := first.readObject_of_ne (show LOCAL_JSON_FILENAME ≠ PRE_KEYS_JSON_FILENAME by decide)
  have named_signed := first.readObject_of_ne (show LOCAL_JSON_FILENAME ≠ SIGNED_PRE_KEYS_JSON_FILENAME by decide)
  have second := @SignalClient.storePreKeys_updates p (batch.generated.preKeys toInt batch.start batch.count.toNat) named.2
  have loaded := loadPreKey_storePreKeys named_ready (first.parsed ready coherent.preKeys)
    (batch.generated.preKeys toInt batch.start batch.count.toNat)
  generalize SignalClient.storePreKeys p (batch.generated.preKeys toInt batch.start batch.count.toNat) named.2 = stored
    at shape second loaded
  have stored_ready := second.framed.ready named_ready
  have stored_user := second.readObject_of_ne (show PRE_KEYS_JSON_FILENAME ≠ LOCAL_JSON_FILENAME by decide)
  have stored_signed := second.readObject_of_ne (show PRE_KEYS_JSON_FILENAME ≠ SIGNED_PRE_KEYS_JSON_FILENAME by decide)
  have third := @SignalClient.loadSigned_updates p verify batch.generated named.1 stored
  have third_user := third.readObject_of_ne (show SIGNED_PRE_KEYS_JSON_FILENAME ≠ LOCAL_JSON_FILENAME by decide)
  have third_keys := third.readObject_of_ne (show SIGNED_PRE_KEYS_JSON_FILENAME ≠ PRE_KEYS_JSON_FILENAME by decide)
  have signer : ∀ record, loadSignedPreKey p 0 stored = some record → record.id = 0 ∧
      verify named.1.publicKey record.keyPair.publicKey record.signature = true := by
    intro record held
    rw [loadSignedPreKey_congr stored_signed, loadSignedPreKey_congr named_signed] at held
    obtain ⟨id, identity, found, verified⟩ := coherent.signedPreKey record held
    rw [same identity found]
    exact ⟨id, verified⟩
  have parsed : ∀ {file}, Parsed p file files → Parsed p file stored :=
    fun held => second.parsed named_ready (first.parsed ready held)
  obtain ⟨held, id, verified⟩ := loadSigned_stored batch.generated stored_ready (parsed coherent.signedPreKeys) signer
  refine ⟨?_, ?_, ?_, ?_, fun id => ?_, ?_, ⟨named.1, ?_, ?_, ?_⟩, ?_, ?_⟩ <;> rw [shape]
  · exact first.framed.trans (second.framed.trans third.framed)
  · exact third.parsed stored_ready (parsed coherent.user)
  · exact third.parsed stored_ready (parsed coherent.preKeys)
  · exact third.parsed stored_ready (parsed coherent.signedPreKeys)
  · rw [loadPreKey_congr third_keys, loaded, loadPreKey_congr named_keys]
  · rw [SignalClient.loadLastResort, loadPreKey_congr named_keys]
  · rw [(getIdentityKeyPair_congr (entry_congr (third_user.trans stored_user) "identityKeyPair")).2, own]
  · exact verified
  · exact held
  · exact id

theorem Registered.coherent {batch : Batch verify} (registered : Registered p batch files)
    (coherent : Coherent verify p files) : Coherent verify p (batch.register p files).2 := by
  obtain ⟨identity, own, _, verified⟩ := registered.identityKey
  refine ⟨registered.user, registered.preKeys, registered.signedPreKeys, fun missing => ?_, fun id record loaded => ?_,
    fun record loaded => ?_⟩
  · rw [own] at missing
    cases missing
  · rw [registered.preKey] at loaded
    exact lastWith_id (coherent.preKey id) loaded
  · rw [registered.signedPreKey.1] at loaded
    cases loaded
    exact ⟨registered.signedPreKey.2, identity, own, verified⟩

theorem Registered.lastResort_loaded {batch : Batch verify} (registered : Registered p batch files) :
    loadPreKey p MEDIUM_MAX_VALUE (batch.register p files).2 = loadPreKey p MEDIUM_MAX_VALUE files := by
  rw [registered.preKey, lastWith_of_not_mem]
  rw [Generated.preKeys_ids]
  intro member
  obtain ⟨i, _, same⟩ := List.mem_map.mp member
  have bound := (preKeyId_bounds toInt batch.start i).2
  omega

theorem Registered.backed_iff {batch : Batch verify} (registered : Registered p batch files)
    (coherent : Coherent verify p files) :
    Backed verify p (batch.register p files).1 (batch.register p files).2 ↔
      (loadPreKey p MEDIUM_MAX_VALUE files).isSome ∧ (preKeyIds toInt batch.start batch.count.toNat).Nodup := by
  have kept := kept_iff (batch.generated.preKeys_fresh toInt batch.start batch.count.toNat)
    (fun id => loadPreKey p id files)
  rw [Generated.preKeys_ids] at kept
  simp only [Kept, ← registered.preKey] at kept
  have last : (∃ record, loadPreKey p (batch.register p files).1.lastResortKey.id (batch.register p files).2 = some record ∧
      record.id = (batch.register p files).1.lastResortKey.id ∧
      record.keyPair.publicKey = (batch.register p files).1.lastResortKey.keyPair.publicKey) ↔
      (loadPreKey p MEDIUM_MAX_VALUE files).isSome := by
    rw [registered.lastResortKey]
    cases stored : loadPreKey p MEDIUM_MAX_VALUE files with
    | none => simp [registered.lastResort_loaded, stored]
    | some record =>
      have id := coherent.preKey _ record stored
      simp [id, registered.lastResort_loaded, stored]
  rw [← kept, ← last]
  constructor
  · intro backed
    exact ⟨backed.lastResortKey, backed.preKeys⟩
  · rintro ⟨lastResortKey, preKeys⟩
    refine ⟨lastResortKey, preKeys, ?_, registered.identityKey⟩
    rw [registered.signedPreKey.2]
    exact registered.signedPreKey.1

end Registration

def Operation.Contained : Operation verify → Prop
  | .deleteContact username => Component username
  | .deleteContactMessages username _ => Component username
  | _ => True

theorem keepsKeys_storeMessage (username : String) (newMessage : Json) (tag : String) (files : Files) :
    KeepsKeys p files (MessageStorage.storeMessage p username newMessage tag files) :=
  .of_same fun file _ => MessageStorage.readObject_storeMessage username newMessage tag file files

theorem keepsKeys_deleteBelow {names : List String} (single : ∀ name ∈ names, Component name) (files : Files) :
    KeepsKeys p files (MessageStorage.deleteBelow p names files) :=
  .of_same fun file _ => MessageStorage.readObject_deleteBelow single file files

theorem Delivers.keepsKeys {before after : Files} {handled : List Handled} (delivers : Delivers p before handled after)
    (sound : before.Sound) : KeepsKeys p before after := by
  induction delivers with
  | done upkeep => exact upkeep.keepsKeys sound
  | @next before after one later upkeep _ _ ih =>
    have decrypted := upkeep.framed.sound sound
    have stored : one.after p |>.Sound := by
      unfold Handled.after
      split
      · exact decrypted
      · exact MessageStorage.sound_storeMessage decrypted _ _ _
    have kept : KeepsKeys p one.decrypted (one.after p) := by
      unfold Handled.after
      split
      · exact .of_same fun _ _ => rfl
      · exact keepsKeys_storeMessage ..
    exact (upkeep.keepsKeys sound).trans (kept.trans (ih stored))

theorem Sending.Writes.keepsKeys {out : Outgoing} {before : Files} {sending : Sending}
    (writes : SignalClient.Sending.Writes p out before sending) (sound : before.Sound) :
    KeepsKeys p before sending.files := by
  unfold SignalClient.Sending.Writes at writes
  split at writes
  · exact writes.keepsKeys sound
  · rw [writes.2]
    exact (writes.1.keepsKeys sound).trans (keepsKeys_storeMessage ..)

/-- What an operation can do to the user's own keys: nothing but remove pre keys, delete everything,
    write the account to what is left, or make a batch of keys. -/
theorem Operation.run_cases {files : Files} (operation : Operation verify) (contained : operation.Contained)
    (ready : Ready p files) :
    KeepsKeys p files (operation.run p files) ∨
    (operation.wipes p files = true ∧ ∀ file, readObject p file (operation.run p files) = .ok []) ∨
    (∃ left username draw,
      (left = files ∨ operation.wipes p files = true ∧ ∀ file, readObject p file left = .ok []) ∧ Ready p left ∧
      operation.run p files = (SignalClient.registerAccount p username draw left).2) ∨
    ∃ batch : Batch verify, operation.batch p files = some batch ∧ operation.run p files = (batch.register p files).2 := by
  have register : ∀ found : Option (Batch verify), KeepsKeys p files
      (found.elim files fun batch => (batch.register p files).2) ∨
      ∃ batch : Batch verify, found = some batch ∧
        (found.elim files fun batch => (batch.register p files).2) = (batch.register p files).2 := by
    intro found
    cases found with
    | none => exact .inl (.of_same fun _ _ => rfl)
    | some batch => exact .inr ⟨batch, rfl, rfl⟩
  cases operation with
  | init config draw =>
    rcases @RNSignalClientModule.init_cases p config draw files with ⟨same, _⟩ | ⟨softReset, username, _, _, sent⟩
    · exact .inl (.of_same fun file _ => by rw [Operation.run, same])
    · have wipes : (Operation.init config draw : Operation verify).wipes p files = true := by
        rw [Operation.wipes, Operation.accountRequest, sent]
        rfl
      exact .inr (.inr (.inl ⟨_, username, draw, .inr ⟨wipes, RNSignalClientModule.wiped_empty softReset files⟩,
        RNSignalClientModule.wiped_ready ready, congrArg Prod.snd sent⟩))
  | registerAccount username draw => exact .inr (.inr (.inl ⟨files, username, draw, .inl rfl, ready, rfl⟩))
  | accountAnswered exchange generated =>
    rw [Operation.run_accountAnswered]
    exact (register _).imp id fun found => .inr (.inr found)
  | checkRemotePreKeys exchange generated =>
    rw [Operation.run_checkRemotePreKeys]
    exact (register _).imp id fun found => .inr (.inr found)
  | resetAccount =>
    refine .inr (.inl ⟨rfl, fun file => ?_⟩)
    rw [Operation.run, RNSignalClientModule.resetAccount, MessageStorage.readObject_deleteAll,
      ProtocolStorage.readObject_deleteAll]
  | addContact username forceAdd exchange process =>
    exact .inl (ProtocolStorage.Upkeep.keepsKeys (RNSignalClientModule.upkeep_addContact ..) ready.sound)
  | deleteContact username =>
    have removed : Upkeep p files (deleteSession p ⟨username, 1⟩ (removeIdentity p ⟨username, 1⟩ files)) :=
      (Upkeep.refl.removeIdentity _).deleteSession _
    refine .inl ((removed.keepsKeys ready.sound).trans ?_)
    have single : Component username := contained
    rw [Operation.run, RNSignalClientModule.deleteContact, MessageStorage.deleteAllContactMessages_eq single]
    exact keepsKeys_deleteBelow (by simp [single]) _
  | deleteContactMessages username tag =>
    have single : Component username := contained
    rw [Operation.run, MessageStorage.deleteContactMessages_eq single]
    exact .inl (keepsKeys_deleteBelow (by simp [single, MessageStorage.HistoryFile.component]) _)
  | getContactMessages username messageTag decodeAndSave exchange draws =>
    have delivers := @SignalClient.getContactMessages_delivers p username messageTag decodeAndSave exchange draws files
    exact .inl (delivers.1.keepsKeys ready.sound)
  | decryptSignalMessage messageTag receivedMessage draw =>
    have delivers := @SignalClient.decryptSignalMessage_delivers p messageTag receivedMessage draw files
    exact .inl (delivers.1.keepsKeys ready.sound)
  | prepareApiBody out encryption =>
    exact .inl ((SignalClient.upkeep_prepareApiBody p out encryption files).keepsKeys ready.sound)
  | sendMessage out rounds =>
    exact .inl (Sending.Writes.keepsKeys (SignalClient.sendMessage_writes out rounds files) ready.sound)
  | saveSentMessage tag username message timestamp => exact .inl (keepsKeys_storeMessage ..)

theorem Operation.run_coherent {files : Files} (operation : Operation verify) (contained : operation.Contained)
    (ready : Ready p files) (coherent : Coherent verify p files) : Coherent verify p (operation.run p files) := by
  rcases operation.run_cases contained ready with keeps | ⟨_, empty⟩ | ⟨left, username, draw, which, still, same⟩ | ⟨batch, _, same⟩
  · exact coherent.keeps keeps
  · exact coherent_of_empty empty
  · have start : Coherent verify p left := by
      rcases which with rfl | ⟨_, empty⟩
      · exact coherent
      · exact coherent_of_empty empty
    rw [same]
    exact start.registerAccount still username draw
  · rw [same]
    exact (coherent.registered ready batch).coherent coherent

theorem runs_invariant {invariant : Files → Prop} {allowed : Files → Operation verify → Prop}
    (keeps : ∀ files operation, operation.Contained → Ready p files → allowed files operation → invariant files →
      invariant (operation.run p files))
    {files : Files} (initial : invariant files) (operations : List (Operation verify))
    (contained : ∀ operation ∈ operations, operation.Contained)
    (ready : ∀ done, done <+: operations → Ready p (runs p done files))
    (each : ∀ done operation, done ++ [operation] <+: operations → allowed (runs p done files) operation) :
    invariant (runs p operations files) := by
  have step : ∀ reached operation, invariant reached →
      operation.Contained ∧ Ready p reached ∧ allowed reached operation → invariant (operation.run p reached) :=
    fun reached operation holds ⟨single, writable, permitted⟩ => keeps reached operation single writable permitted holds
  refine foldl_invariant step initial (fun done operation below => ?_) operations List.prefix_rfl
  exact ⟨contained operation (below.subset (by simp)), ready done ((List.prefix_append ..).trans below),
    each done operation below⟩

theorem runs_coherent {files : Files} (coherent : Coherent verify p files) (operations : List (Operation verify))
    (contained : ∀ operation ∈ operations, operation.Contained)
    (ready : ∀ done, done <+: operations → Ready p (runs p done files)) : Coherent verify p (runs p operations files) :=
  runs_invariant (fun _ operation contained ready (_ : True) => operation.run_coherent contained ready) coherent operations
    contained ready fun _ _ _ => trivial

theorem Operation.batch_run {files : Files} {operation : Operation verify} {batch : Batch verify}
    (asked : operation.batch p files = some batch) : operation.run p files = (batch.register p files).2 := by
  cases operation with
  | accountAnswered exchange generated => simp only [Operation.run, asked]
  | checkRemotePreKeys exchange generated => simp only [Operation.run, asked]
  | _ => cases asked

theorem Operation.run_without_last_resort {files : Files} (operation : Operation verify)
    (contained : operation.Contained) (ready : Ready p files) (coherent : Coherent verify p files)
    (missing : loadPreKey p MEDIUM_MAX_VALUE files = none) :
    loadPreKey p MEDIUM_MAX_VALUE (operation.run p files) = none := by
  have of_empty : ∀ {left : Files}, (∀ file, readObject p file left = .ok []) →
      loadPreKey p MEDIUM_MAX_VALUE left = none := by
    intro left empty
    rw [loadPreKey, loadRecord_eq, entry, empty]
    rfl
  rcases operation.run_cases contained ready with keeps | ⟨_, empty⟩ | ⟨left, username, draw, which, _, same⟩ | ⟨batch, _, same⟩
  · rw [loadPreKey, loadRecord_eq] at missing ⊢
    rcases keeps.preKeys (valueOf MEDIUM_MAX_VALUE) with gone | kept
    · rw [gone, Option.bind_none]
    · rw [kept, missing]
  · exact of_empty empty
  · have updates := SignalClient.registerAccount_updates p username draw left
    rw [same, loadPreKey_congr (updates.readObject_of_ne (by decide))]
    rcases which with rfl | ⟨_, empty⟩
    · exact missing
    · exact of_empty empty
  · rw [same, (coherent.registered ready batch).lastResort_loaded, missing]

theorem runs_without_last_resort {files : Files} (coherent : Coherent verify p files)
    (missing : loadPreKey p MEDIUM_MAX_VALUE files = none) (operations : List (Operation verify))
    (contained : ∀ operation ∈ operations, operation.Contained)
    (ready : ∀ done, done <+: operations → Ready p (runs p done files)) :
    loadPreKey p MEDIUM_MAX_VALUE (runs p operations files) = none := by
  -- the step needs coherent files, so both are carried along
  have keeps : ∀ files (operation : Operation verify), operation.Contained → Ready p files → True →
      Coherent verify p files ∧ loadPreKey p MEDIUM_MAX_VALUE files = none →
      Coherent verify p (operation.run p files) ∧ loadPreKey p MEDIUM_MAX_VALUE (operation.run p files) = none := by
    rintro files operation contained ready - ⟨coherent, missing⟩
    exact ⟨operation.run_coherent contained ready coherent,
      operation.run_without_last_resort contained ready coherent missing⟩
  exact (runs_invariant keeps ⟨coherent, missing⟩ operations contained ready fun _ _ _ => trivial).2

end PillarSignal.Android
