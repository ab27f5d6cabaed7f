import PillarSignal.Protocol.KeyHelper
import PillarSignal.Ios.MessagesStorage
import PillarSignal.Ios.Server

namespace PillarSignal.Ios

open Storage ProtocolStorage MessagesStorage DownloadsType

/-- What is drawn for a new account: whether the stores can be set up, the registration id unless
    its generation throws, and the text of the random signaling key. -/
structure AccountDraw where
  store : Bool
  registrationId : Option Int
  signalingKey : String

namespace SignalClient

variable (p : Platform) {verify : Verify}

inductive AccountRequest where
  | attributes (parameters : Dictionary)
  | accounts (parameters : Dictionary)
deriving DecidableEq

def accountParameters (signalingKey : String) (registrationId : Json) (name : String) : Dictionary :=
  [("signalingKey", .str signalingKey), ("fetchesMessages", .bool true), ("registrationId", registrationId),
   ("name", .str name), ("voice", .bool false)]

def signalResetVersion : Int := 0

/-- `register` up to its request, whose answer leads to `registerPreKeys` with 100 keys from 1. -/
def register (username : String) (draw : AccountDraw) (archives : Archives) :
    Except Failure AccountRequest × Archives :=
  if draw.store then
    match getLocalRegistrationId archives with
    | some registrationId =>
      let stored := getSignalingKey archives
      let signalingKey := if stored = "" then draw.signalingKey else stored
      let archives := if stored = "" then storeSignalingKey signalingKey archives else archives
      (.ok (.attributes (accountParameters signalingKey (.num registrationId) (getLocalUsername archives))), archives)
    | none =>
      match draw.registrationId with
      | none => (.error ⟨.ERR_NATIVE_FAILED, .signal .other⟩, archives)
      | some registrationId =>
        let archives := storeLocalRegistrationId registrationId archives
        let archives := storeLocalUsername username archives
        let archives := storeSignalingKey draw.signalingKey archives
        let archives := storeSignalResetVersion signalResetVersion archives
        (.ok (.accounts (accountParameters draw.signalingKey (.num registrationId) username)), archives)
  else (.error ⟨.ERR_NATIVE_FAILED, .text "Store is invalid"⟩, archives)

theorem getLocal_setLocal (name other : String) (value : Json) (archives : Archives) :
    getLocal other (setLocal name value archives) = if name = other then some value else getLocal other archives := by
  simp [getLocal, setLocal, lookup_put]

theorem get_setLocal_of_ne {type : DownloadsType} (other : type ≠ LOCAL_JSON_FILENAME) (name : String) (value : Json)
    (archives : Archives) : get type (setLocal name value archives) = get type archives := by
  simp [setLocal, other]

theorem get_register_of_ne {type : DownloadsType} (other : type ≠ LOCAL_JSON_FILENAME) (username : String)
    (draw : AccountDraw) (archives : Archives) : get type (register username draw archives).2 = get type archives := by
  unfold register
  split
  · split
    · dsimp only
      split
      · exact get_setLocal_of_ne other ..
      · rfl
    · split
      · rfl
      · simp only [storeSignalResetVersion, storeSignalingKey, storeLocalUsername, storeLocalRegistrationId,
          get_setLocal_of_ne other]
  · rfl

theorem getMessages_register (username : String) (draw : AccountDraw) (archives : Archives) (other tag : String) :
    getMessages other tag (register username draw archives).2 = getMessages other tag archives :=
  getMessages_congr (get_register_of_ne (storage_ne tag (by decide)) ..) other

theorem getLocal_register {name : String}
    (other : name ∉ ["username", "registrationId", "signalingKey", "signalResetVersion"]) (username : String)
    (draw : AccountDraw) (archives : Archives) :
    getLocal name (register username draw archives).2 = getLocal name archives := by
  simp only [List.mem_cons, List.not_mem_nil, or_false, not_or] at other
  obtain ⟨not_username, not_id, not_key, not_version⟩ := other
  unfold register
  split
  · split
    · dsimp only
      split
      · rw [storeSignalingKey, getLocal_setLocal, if_neg (Ne.symm not_key)]
      · rfl
    · split
      · rfl
      · simp only [storeSignalResetVersion, storeSignalingKey, storeLocalUsername, storeLocalRegistrationId,
          getLocal_setLocal, Ne.symm not_username, Ne.symm not_id, Ne.symm not_key, Ne.symm not_version, if_false]
  · rfl

/-- The id under which the last resort key is looked up, `UInt32(GL_MEDIUM_INT)`. -/
def lastPreKeyIndex : Int := 0x8DF4

def loadIdentity (generated : Generated verify) (archives : Archives) : KeyPair × Archives :=
  match getIdentityKeyPair p archives with
  | some identityKeyPair => (identityKeyPair, archives)
  | none => (generated.identityKeyPair, storeIdentityKeyPair p generated.identityKeyPair archives)

/-- The sum of two `UInt32`, as C computes it. -/
def unsigned (value : Int) : Int := value % 2 ^ 32

/-- `none` when a stored record cannot be decoded; a generated one is not stored. -/
def loadLastRecord (generated : Generated verify) (archives : Archives) : Option PreKeyRecord :=
  match PreKeyStorePillar.load p lastPreKeyIndex archives with
  | some data => p.preKey.decode data
  | none => some ⟨preKeyId unsigned lastPreKeyIndex 0, generated.lastResortKeyPair⟩

def storePreKeys (preKeys : List PreKeyRecord) (archives : Archives) : Archives :=
  preKeys.foldl (fun archives preKey => PreKeyStorePillar.store p (p.preKey.encode preKey) preKey.id archives) archives

def loadSigned (generated : Generated verify) (identity : KeyPair) (archives : Archives) :
    Option SignedPreKeyRecord × Archives :=
  match SignedPreKeyStorePillar.load p 1 archives with
  | some data => (p.signedPreKey.decode data, archives)
  | none =>
    let signedPreKey := generated.signedPreKey identity 1
    (some signedPreKey, SignedPreKeyStorePillar.store p (p.signedPreKey.encode signedPreKey) signedPreKey.id archives)

/-- How far `registerPreKeys` comes: to its `PUT` request, to a failure, or to a count that is no
    `UInt32`, which stops the app. -/
inductive Registering where
  | upload (upload : Upload)
  | failure (failure : Failure)
  | crashed
deriving DecidableEq

def registerPreKeys (generated : Generated verify) (start count : Int) (archives : Archives) : Registering × Archives :=
  let (identity, archives) := loadIdentity p generated archives
  let lastRecordKey := loadLastRecord p generated archives
  if 0 ≤ count ∧ count < 2 ^ 32 then
    let preKeys := generated.preKeys unsigned start count.toNat
    let archives := storePreKeys p preKeys archives
    match loadSigned p generated identity archives with
    | (none, archives) => (.failure ⟨.ERR_NATIVE_FAILED, .signal .other⟩, archives)
    | (some signedPreKey, archives) =>
      match lastRecordKey with
      | none => (.failure ⟨.ERR_NATIVE_FAILED, .text "lastResortKey is nil"⟩, archives)
      | some lastResortKey => (.upload ⟨lastResortKey, preKeys, identity.publicKey, signedPreKey⟩, archives)
  else (.crashed, archives)

variable {p}

theorem get_storeIdentityKeyPair {type : DownloadsType} (other : type ≠ LOCAL_JSON_FILENAME) (keyPair : KeyPair)
    (archives : Archives) : get type (storeIdentityKeyPair p keyPair archives) = get type archives := by
  simp [storeIdentityKeyPair, other]

theorem get_loadIdentity (generated : Generated verify) {type : DownloadsType} (other : type ≠ LOCAL_JSON_FILENAME)
    (archives : Archives) : get type (loadIdentity p generated archives).2 = get type archives := by
  unfold loadIdentity
  split
  · rfl
  · exact get_storeIdentityKeyPair other ..

theorem get_storePreKeys {type : DownloadsType} (other : type ≠ PRE_KEYS_JSON_FILENAME) (preKeys : List PreKeyRecord)
    (archives : Archives) : get type (storePreKeys p preKeys archives) = get type archives := by
  unfold storePreKeys
  induction preKeys generalizing archives with
  | nil => rfl
  | cons record preKeys ih =>
    rw [List.foldl_cons, ih]
    simp [PreKeyStorePillar.store, storeData, other]

theorem get_loadSigned (generated : Generated verify) {type : DownloadsType}
    (other : type ≠ SIGNED_PRE_KEYS_JSON_FILENAME) (identity : KeyPair) (archives : Archives) :
    get type (loadSigned p generated identity archives).2 = get type archives := by
  unfold loadSigned
  split
  · rfl
  · simp [SignedPreKeyStorePillar.store, storeData, other]

theorem get_registerPreKeys {type : DownloadsType}
    (other : type ∉ [LOCAL_JSON_FILENAME, PRE_KEYS_JSON_FILENAME, SIGNED_PRE_KEYS_JSON_FILENAME])
    (generated : Generated verify) (start count : Int) (archives : Archives) :
    get type (registerPreKeys p generated start count archives).2 = get type archives := by
  simp only [List.mem_cons, List.not_mem_nil, or_false, not_or] at other
  obtain ⟨not_local, not_preKeys, not_signed⟩ := other
  have identity := @get_loadIdentity p verify generated type not_local archives
  have preKeys := @get_storePreKeys p type not_preKeys (generated.preKeys unsigned start count.toNat)
    (loadIdentity p generated archives).2
  have signed := @get_loadSigned p verify generated type not_signed (loadIdentity p generated archives).1
    (storePreKeys p (generated.preKeys unsigned start count.toNat) (loadIdentity p generated archives).2)
  unfold registerPreKeys
  dsimp only
  split
  · split
    · rename_i same
      rw [same] at signed
      exact signed.trans (preKeys.trans identity)
    · rename_i same
      rw [same] at signed
      split <;> exact signed.trans (preKeys.trans identity)
  · exact identity

/-- The batch that `checkPreKeys` asks for once the server has told how many keys it has left; a sum
    that overflows stops the app. -/
def checkPreKeys (store : Bool) (dict : Dictionary) (archives : Archives) : Option (Int × Int) := do
  let count := ((dict.lookup "count").bind asInt).getD (-1)
  if store ∧ count ≤ 10 ∧ count ≠ -1 then
    let preKeysNeeded := 100 - count
    let lastPreKeyIndex ← PreKeyStorePillar.getLastPreKeyIndex archives
    if preKeysNeeded + 1 < 2 ^ 63 ∧ lastPreKeyIndex + 1 < 2 ^ 32 then
      pure (lastPreKeyIndex + 1, preKeysNeeded + 1)
    else none
  else none

end SignalClient

namespace RNSignalClientModule

inductive Created where
  | checking
  | rejected (failure : Failure)
  | registering (request : SignalClient.AccountRequest)
deriving DecidableEq

def performSoftReset (archives : Archives) : Bool := (get PRE_KEYS_JSON_FILENAME archives).count > 300

/-- What is left when `createClient` registers. -/
def wiped (archives : Archives) : Archives :=
  if performSoftReset archives then destroyAllExceptMessages archives else destroyAll archives

def createClient (username : String) (draw : AccountDraw) (archives : Archives) : Created × Archives :=
  if !performSoftReset archives && getLocalUsername archives == username && isLocalRegistered archives then
    (.checking, archives)
  else
    match SignalClient.register username draw (wiped archives) with
    | (.ok request, archives) => (.registering request, archives)
    | (.error failure, archives) => (.rejected failure, archives)

def resetAccount (archives : Archives) : Archives := destroyAll archives

theorem wiped_protocol {type : DownloadsType} (archives : Archives)
    (protocol : type ∈ [PRE_KEYS_JSON_FILENAME, SIGNED_PRE_KEYS_JSON_FILENAME, SESSIONS_JSON_FILENAME,
      IDENTITES_JSON_FILENAME, LOCAL_JSON_FILENAME]) : wiped archives type = none := by
  unfold wiped
  split
  · simp only [destroyAllExceptMessages, destroyByType]
    simp only [List.mem_cons, List.not_mem_nil, or_false] at protocol
    rcases protocol with rfl | rfl | rfl | rfl | rfl <;> simp
  · rfl

theorem getMessages_wiped (archives : Archives) (username tag : String) :
    getMessages username tag (wiped archives) =
      if performSoftReset archives then getMessages username tag archives else [] := by
  rw [wiped]
  split
  · exact getMessages_destroyAllExceptMessages archives username tag
  · rfl

theorem createClient_cases (username : String) (draw : AccountDraw) (archives : Archives) :
    (createClient username draw archives = (.checking, archives) ∧ isLocalRegistered archives = true) ∨
      ∃ result after, SignalClient.register username draw (wiped archives) = (result, after) ∧
        createClient username draw archives =
          (match result with
            | .ok request => .registering request
            | .error failure => .rejected failure, after) := by
  unfold createClient
  split
  · rename_i checking
    simp only [Bool.and_eq_true] at checking
    exact .inl ⟨rfl, checking.2⟩
  · right
    split <;> rename_i sent <;> exact ⟨_, _, sent, rfl⟩

end RNSignalClientModule
end PillarSignal.Ios
