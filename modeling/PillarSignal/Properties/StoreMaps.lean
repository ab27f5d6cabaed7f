import PillarSignal.Android.ProtocolFiles

namespace PillarSignal.Android.ProtocolStorage

open Storage StorageFile

variable {p : Platform} {files before after : Files}

structure Maps where
  preKeys : Finmap fun _ : Int => PreKeyRecord
  sessions : Finmap fun _ : SignalProtocolAddress => SessionRecord
  identities : Finmap fun _ : SignalProtocolAddress => PublicKey

inductive StoreOperation where
  | storePreKey (preKeyId : Int) (record : PreKeyRecord)
  | removePreKey (preKeyId : Int)
  | storeSession (address : SignalProtocolAddress) (record : SessionRecord)
  | deleteSession (address : SignalProtocolAddress)
  | saveIdentity (address : SignalProtocolAddress) (identityKey : PublicKey)
  | removeIdentity (address : SignalProtocolAddress)
deriving DecidableEq

namespace StoreOperation

def run (p : Platform) : StoreOperation → Files → Files
  | storePreKey preKeyId record => ProtocolStorage.storePreKey p preKeyId record
  | removePreKey preKeyId => ProtocolStorage.removePreKey p preKeyId
  | storeSession address record => ProtocolStorage.storeSession p address record
  | deleteSession address => ProtocolStorage.deleteSession p address
  | saveIdentity address identityKey => ProtocolStorage.saveIdentity p address identityKey
  | removeIdentity address => ProtocolStorage.removeIdentity p address

def apply : StoreOperation → Maps → Maps
  | storePreKey preKeyId record, maps => { maps with preKeys := maps.preKeys.insert preKeyId record }
  | removePreKey preKeyId, maps => { maps with preKeys := maps.preKeys.erase preKeyId }
  | storeSession address record, maps => { maps with sessions := maps.sessions.insert address record }
  | deleteSession address, maps => { maps with sessions := maps.sessions.erase address }
  | saveIdentity address identityKey, maps => { maps with identities := maps.identities.insert address identityKey }
  | removeIdentity address, maps => { maps with identities := maps.identities.erase address }

def file : StoreOperation → StorageFile
  | storePreKey _ _ | removePreKey _ => PRE_KEYS_JSON_FILENAME
  | storeSession _ _ | deleteSession _ => SESSIONS_JSON_FILENAME
  | saveIdentity _ _ | removeIdentity _ => IDENTITES_JSON_FILENAME

end StoreOperation

theorem framed_run (operation : StoreOperation) (files : Files) : Framed p files (operation.run p files) := by
  cases operation with
  | storePreKey preKeyId record => exact (Updates.refl.storeRecord p.texts.preKey (valueOf preKeyId) record).framed
  | removePreKey preKeyId => exact framed_removeKey ..
  | storeSession address record => exact framed_storeSession ..
  | deleteSession address => exact framed_removeKey ..
  | saveIdentity address identityKey => exact framed_saveIdentity ..
  | removeIdentity address => exact framed_removeKey ..

theorem readObject_run_of_ne {operation : StoreOperation} {other : StorageFile} (differs : operation.file ≠ other)
    (files : Files) : readObject p other (operation.run p files) = readObject p other files := by
  cases operation with
  | storePreKey preKeyId record => exact readObject_updateObject_of_ne differs ..
  | removePreKey preKeyId => exact readObject_updateObject_of_ne differs ..
  | storeSession address record => exact readObject_storeSession_of_ne differs ..
  | deleteSession address => exact readObject_updateObject_of_ne differs ..
  | saveIdentity address identityKey => exact readObject_updateObject_of_ne differs ..
  | removeIdentity address => exact readObject_updateObject_of_ne differs ..

/-- The reading that was taken before the deletion is complete but for the record that is put into it. -/
theorem readObject_storeSession (ready : Ready p files) {data : JSONObject}
    (held : readObject p SESSIONS_JSON_FILENAME files = .ok data) (address : SignalProtocolAddress)
    (record : SessionRecord) :
    readObject p SESSIONS_JSON_FILENAME (storeSession p address record files) =
      .ok (put (addressText address) (.str (p.texts.session.encode record)) data) := by
  have cleared : Ready p (if containsSession p address files then deleteSession p address files else files) := by
    split
    · exact (framed_removeKey ..).ready ready
    · exact ready
  unfold storeSession
  dsimp only
  rw [held]
  dsimp only
  rw [readObject_writeObject cleared, if_pos rfl]

def Edits (p : Platform) (file : StorageFile) (key : String) (value : Option Json) (before after : Files) : Prop :=
  ∀ other name, entry p other name after = if file = other ∧ key = name then value else entry p other name before

theorem edits_storeSession (ready : Ready p files) (parsed : Parsed p SESSIONS_JSON_FILENAME files)
    (address : SignalProtocolAddress) (record : SessionRecord) :
    Edits p SESSIONS_JSON_FILENAME (addressText address) (some (.str (p.texts.session.encode record))) files
      (storeSession p address record files) := by
  intro other name
  obtain ⟨data, held⟩ := parsed
  by_cases same : SESSIONS_JSON_FILENAME = other
  · subst same
    rw [entry, entry, readObject_storeSession ready held, held]
    dsimp only
    rw [lookup_put]
    simp
  · rw [if_neg fun both => same both.1]
    exact entry_congr (readObject_storeSession_of_ne same ..) name

theorem Edits.loadRecord {file : StorageFile} {key : String} {value : Option Json} (edits : Edits p file key value before after)
    {α : Type} (codec : TextCodec α) (other : StorageFile) (name : String) :
    loadRecord p codec other name after =
      if file = other ∧ key = name then value.bind fun value => codec.decode (p.json.toText value)
      else ProtocolStorage.loadRecord p codec other name before := by
  rw [loadRecord_eq, edits, loadRecord_eq]
  split <;> rfl

def holdsIdentity (p : Platform) (identityKey : PublicKey) : Json → Bool
  | .obj entry =>
    match p.json.getString entry "identityKey" with
    | .error _ => false
    | .ok encoded => p.texts.publicKey.decode encoded = some identityKey
  | _ => false

theorem holdsIdentity_saved (identityKey other : PublicKey) :
    holdsIdentity p other (.obj [("identityKey", .str (p.texts.publicKey.encode identityKey))]) =
      decide (identityKey = other) := by
  simp [holdsIdentity, OrgJson.getString, OrgJson.get, OrgJson.toText, Except.map, p.texts.publicKey.decode_encode]

theorem isTrustedIdentity_entry (parsed : Parsed p IDENTITES_JSON_FILENAME files) (address : SignalProtocolAddress)
    (identityKey : PublicKey) :
    isTrustedIdentity p address identityKey files =
      (entry p IDENTITES_JSON_FILENAME (addressText address) files).all (holdsIdentity p identityKey) := by
  obtain ⟨data, held⟩ := parsed
  rw [isTrustedIdentity_eq, entry, held]
  dsimp only
  cases found : data.lookup (addressText address) with
  | none => simp [OrgJson.has, found]
  | some value =>
    simp only [OrgJson.has, OrgJson.getJSONObject, OrgJson.get, found, Option.isSome_some, if_true, Option.all_some]
    cases value <;> rfl

theorem Edits.isTrustedIdentity {file : StorageFile} {key : String} {value : Option Json}
    (edits : Edits p file key value before after) (parsedBefore : Parsed p IDENTITES_JSON_FILENAME before)
    (parsedAfter : Parsed p IDENTITES_JSON_FILENAME after) (address : SignalProtocolAddress) (identityKey : PublicKey) :
    isTrustedIdentity p address identityKey after =
      if file = IDENTITES_JSON_FILENAME ∧ key = addressText address then value.all (holdsIdentity p identityKey)
      else ProtocolStorage.isTrustedIdentity p address identityKey before := by
  rw [isTrustedIdentity_entry parsedAfter, edits, isTrustedIdentity_entry parsedBefore]
  split <;> rfl

def trusts (held : Option PublicKey) (identityKey : PublicKey) : Bool := held.all (· = identityKey)

structure Refines (p : Platform) (files : Files) (maps : Maps) : Prop where
  preKeys : Reads id (fun preKeyId => loadPreKey p preKeyId files) maps.preKeys
  sessions : Reads id (fun address => loadSession p address files) maps.sessions
  identities : Reads trusts (fun address identityKey => isTrustedIdentity p address identityKey files) maps.identities

section Steps

variable {maps : Maps} {value : Option Json}

theorem Refines.preKey (refines : Refines p before maps) (parsed : Parsed p IDENTITES_JSON_FILENAME before)
    (parsedAfter : Parsed p IDENTITES_JSON_FILENAME after) {preKeyId : Int} {record : Option PreKeyRecord}
    (edits : Edits p PRE_KEYS_JSON_FILENAME (valueOf preKeyId) value before after)
    (decodes : (value.bind fun value => p.texts.preKey.decode (p.json.toText value)) = record) :
    Refines p after { maps with preKeys := assign preKeyId record maps.preKeys } where
  preKeys := refines.preKeys.assign fun other => by
    rw [loadPreKey, edits.loadRecord, decodes]
    simp [valueOf_injective.eq_iff]
  sessions := refines.sessions.congr fun address => by
    rw [loadSession, edits.loadRecord, if_neg (by simp)]
  identities := refines.identities.congr fun address => by
    funext identityKey
    rw [edits.isTrustedIdentity parsed parsedAfter, if_neg (by simp)]

theorem Refines.session (refines : Refines p before maps) (parsed : Parsed p IDENTITES_JSON_FILENAME before)
    (parsedAfter : Parsed p IDENTITES_JSON_FILENAME after) {address : SignalProtocolAddress} {record : Option SessionRecord}
    (edits : Edits p SESSIONS_JSON_FILENAME (addressText address) value before after)
    (decodes : (value.bind fun value => p.texts.session.decode (p.json.toText value)) = record) :
    Refines p after { maps with sessions := assign address record maps.sessions } where
  preKeys := refines.preKeys.congr fun preKeyId => by
    rw [loadPreKey, edits.loadRecord, if_neg (by simp)]
  sessions := refines.sessions.assign fun other => by
    rw [loadSession, edits.loadRecord, decodes]
    simp [addressText_injective.eq_iff]
  identities := refines.identities.congr fun address => by
    funext identityKey
    rw [edits.isTrustedIdentity parsed parsedAfter, if_neg (by simp)]

theorem Refines.identity (refines : Refines p before maps) (parsed : Parsed p IDENTITES_JSON_FILENAME before)
    (parsedAfter : Parsed p IDENTITES_JSON_FILENAME after) {address : SignalProtocolAddress} {held : Option PublicKey}
    (edits : Edits p IDENTITES_JSON_FILENAME (addressText address) value before after)
    (holds : ∀ identityKey, value.all (holdsIdentity p identityKey) = trusts held identityKey) :
    Refines p after { maps with identities := assign address held maps.identities } where
  preKeys := refines.preKeys.congr fun preKeyId => by
    rw [loadPreKey, edits.loadRecord, if_neg (by simp)]
  sessions := refines.sessions.congr fun address => by
    rw [loadSession, edits.loadRecord, if_neg (by simp)]
  identities := refines.identities.assign fun other => by
    funext identityKey
    rw [edits.isTrustedIdentity parsed parsedAfter, holds]
    by_cases same : address = other
    · subst same
      simp
    · simp [same, addressText_injective.eq_iff]

end Steps

theorem Parsed.run {file : StorageFile} (parsed : Parsed p file files) (ready : Ready p files) (operation : StoreOperation) :
    Parsed p file (operation.run p files) := by
  cases operation with
  | storePreKey preKeyId record => exact parsed.updateObject ready PRE_KEYS_JSON_FILENAME _
  | removePreKey preKeyId => exact parsed.updateObject ready PRE_KEYS_JSON_FILENAME _
  | storeSession address record =>
    obtain ⟨data, held⟩ := parsed
    by_cases same : SESSIONS_JSON_FILENAME = file
    · subst same
      exact ⟨_, readObject_storeSession ready held address record⟩
    · exact ⟨data, (readObject_storeSession_of_ne same ..).trans held⟩
  | deleteSession address => exact parsed.updateObject ready SESSIONS_JSON_FILENAME _
  | saveIdentity address identityKey => exact parsed.updateObject ready IDENTITES_JSON_FILENAME _
  | removeIdentity address => exact parsed.updateObject ready IDENTITES_JSON_FILENAME _

structure Usable (p : Platform) (files : Files) : Prop where
  ready : Ready p files
  preKeys : Parsed p PRE_KEYS_JSON_FILENAME files
  sessions : Parsed p SESSIONS_JSON_FILENAME files
  identities : Parsed p IDENTITES_JSON_FILENAME files

theorem Usable.run (usable : Usable p files) (operation : StoreOperation) : Usable p (operation.run p files) where
  ready := (framed_run operation files).ready usable.ready
  preKeys := usable.preKeys.run usable.ready operation
  sessions := usable.sessions.run usable.ready operation
  identities := usable.identities.run usable.ready operation

theorem Refines.run {maps : Maps} (refines : Refines p files maps) (usable : Usable p files) (operation : StoreOperation) :
    Refines p (operation.run p files) (operation.apply maps) := by
  have ready := usable.ready
  have parsed := usable.identities
  have parsedAfter := (usable.run operation).identities
  cases operation with
  | storePreKey preKeyId record =>
    exact refines.preKey parsed parsedAfter (entry_put ready usable.preKeys _ _) (p.texts.preKey.decode_encode record)
  | removePreKey preKeyId => exact refines.preKey parsed parsedAfter (entry_removeKey ready _ · _) rfl
  | storeSession address record =>
    exact refines.session parsed parsedAfter (edits_storeSession ready usable.sessions address record)
      (p.texts.session.decode_encode record)
  | deleteSession address => exact refines.session parsed parsedAfter (entry_removeKey ready _ · _) rfl
  | saveIdentity address identityKey =>
    have holds : ∀ other, Option.all (holdsIdentity p other)
        (some (.obj [("identityKey", .str (p.texts.publicKey.encode identityKey))])) = trusts (some identityKey) other := by
      intro other
      rw [Option.all_some, holdsIdentity_saved]
      rfl
    exact refines.identity parsed parsedAfter (entry_put ready parsed _ _) holds
  | removeIdentity address =>
    have holds : ∀ other, Option.all (holdsIdentity p other) none = trusts none other := fun _ => rfl
    exact refines.identity parsed parsedAfter (entry_removeKey ready _ · _) holds

theorem Refines.runs {maps : Maps} (refines : Refines p files maps) (usable : Usable p files)
    (operations : List StoreOperation) :
    Refines p (operations.foldl (fun files operation => operation.run p files) files)
      (operations.foldl (fun maps operation => operation.apply maps) maps) := by
  induction operations generalizing files maps with
  | nil => exact refines
  | cons operation later ih => exact ih (refines.run usable operation) (usable.run operation)

/-- Whatever is stored and removed, the three stores answer as three maps that are changed in the same way. -/
theorem stores_refine_maps (p : Platform) (files : Files) (maps : Maps) (operations : List StoreOperation)
    (usable : Usable p files) (start : Refines p files maps) :
    let after := operations.foldl (fun files operation => operation.run p files) files
    let held := operations.foldl (fun maps operation => operation.apply maps) maps
    (∀ preKeyId, loadPreKey p preKeyId after = held.preKeys.lookup preKeyId ∧
      (containsPreKey p preKeyId after = true ↔ preKeyId ∈ held.preKeys)) ∧
    (∀ address, loadSession p address after = held.sessions.lookup address ∧
      (containsSession p address after = true ↔ address ∈ held.sessions)) ∧
    (∀ address identityKey, isTrustedIdentity p address identityKey after = true ↔
      held.identities.lookup address = none ∨ held.identities.lookup address = some identityKey) ∧
    (∀ (operation : StoreOperation) (file : StorageFile), file ≠ operation.file →
      readObject p file (operation.run p after) = readObject p file after) ∧
    Function.Injective addressText := by
  intro after held
  obtain ⟨preKeys, sessions, identities⟩ := start.runs usable operations
  refine ⟨fun preKeyId => ⟨preKeys preKeyId, ?_⟩, fun address => ⟨sessions address, ?_⟩, fun address identityKey => ?_,
    fun operation file differs => readObject_run_of_ne differs.symm after, addressText_injective⟩
  · rw [containsPreKey, ← Finmap.lookup_isSome]
    exact iff_of_eq (congrArg (fun record => Option.isSome record = true) (preKeys preKeyId))
  · rw [containsSession, ← Finmap.lookup_isSome]
    exact iff_of_eq (congrArg (fun record => Option.isSome record = true) (sessions address))
  · have trusted := congrFun (identities address) identityKey
    dsimp only at trusted
    rw [trusted, trusts]
    cases held.identities.lookup address with
    | none => simp
    | some key => simp

section Empty

theorem Refines.empty (nothing : ∀ file, readObject p file files = .ok []) : Refines p files ⟨∅, ∅, ∅⟩ := by
  have absent : ∀ file key, entry p file key files = none := by
    intro file key
    rw [entry, nothing]
    rfl
  refine ⟨fun preKeyId => ?_, fun address => ?_, fun address => funext fun identityKey => ?_⟩
  · dsimp only
    rw [loadPreKey, loadRecord_eq, absent]
    rfl
  · dsimp only
    rw [loadSession, loadRecord_eq, absent]
    rfl
  · dsimp only
    rw [isTrustedIdentity_entry ⟨[], nothing _⟩, absent]
    rfl

theorem noFiles_usable : Usable .plain noFiles :=
  ⟨noFiles_ready, ⟨[], noFiles_empty _⟩, ⟨[], noFiles_empty _⟩, ⟨[], noFiles_empty _⟩⟩

def similarNames : List StoreOperation :=
  [.storeSession ⟨"bob:1", 1⟩ ⟨[1]⟩, .storeSession ⟨"bob", 1⟩ ⟨[2]⟩, .storeSession ⟨"bob:1", 1⟩ ⟨[3]⟩,
    .deleteSession ⟨"bob", 1⟩]

theorem similar_names_stay_apart :
    let after := similarNames.foldl (fun files operation => operation.run .plain files) noFiles
    loadSession .plain ⟨"bob:1", 1⟩ after = some ⟨[3]⟩ ∧ loadSession .plain ⟨"bob", 1⟩ after = none := by
  have sessions := (stores_refine_maps .plain noFiles ⟨∅, ∅, ∅⟩ similarNames noFiles_usable (.empty noFiles_empty)).2.1
  exact ⟨(sessions ⟨"bob:1", 1⟩).1.trans (by decide +kernel), (sessions ⟨"bob", 1⟩).1.trans (by decide +kernel)⟩

end Empty

end PillarSignal.Android.ProtocolStorage
