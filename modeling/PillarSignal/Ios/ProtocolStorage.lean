import PillarSignal.Storage.Table
import PillarSignal.Storage.Decimal
import PillarSignal.Storage.JsonText
import PillarSignal.Protocol.Plain
import Mathlib.Data.List.Dedup
import Mathlib.Logic.Function.Basic

namespace PillarSignal.Ios

open Storage

abbrev Dictionary := List (String × Json)

def Dictionary.members (dictionary : Dictionary) : Dictionary :=
  (dictionary.map Prod.fst).dedup.filterMap fun key => (dictionary.lookup key).map fun value => (key, value)

def Dictionary.count (dictionary : Dictionary) : Nat := (dictionary.map Prod.fst).dedup.length

def asString : Json → Option String
  | .str text => some text
  | _ => none

def asDictionary : Json → Option Dictionary
  | .obj members => some members
  | _ => none

def asDictionaries : Json → Option (List Dictionary)
  | .arr items => items.mapM asDictionary
  | _ => none

/-- The integer that an `NSNumber` holds exactly. -/
def integerValue : Json → Option Int
  | .num value => some value
  | .bool value => some (if value then 1 else 0)
  | .dec digits places =>
    if digits % 10 ^ (places + 1) = 0 then some (digits / 10 ^ (places + 1)) else none
  | _ => none

def asInt (value : Json) : Option Int := (integerValue value).filter fun n => -2 ^ 63 ≤ n ∧ n < 2 ^ 63

def asUInt32 (value : Json) : Option Int := (integerValue value).filter fun n => 0 ≤ n ∧ n < 2 ^ 32

inductive DownloadsType where
  | PRE_KEYS_JSON_FILENAME
  | SIGNED_PRE_KEYS_JSON_FILENAME
  | SESSIONS_JSON_FILENAME
  | IDENTITES_JSON_FILENAME
  | LOCAL_JSON_FILENAME
  | MESSAGES_CHAT_JSON_FILENAME
  | MESSAGES_TXNOTE_JSON_FILENAME
  | MESSAGES_OTHER_JSON_FILENAME
deriving DecidableEq, Repr

open DownloadsType

/-- What each file holds when it is unarchived, if it is there. -/
abbrev Archives := DownloadsType → Option Json

def noArchives : Archives := fun _ => none

/-- The serialized forms of keys and records, and the decoding of text and of JSON. -/
structure Platform where
  base64 : TextCodec Bytes
  preKey : DataCodec PreKeyRecord
  signedPreKey : DataCodec SignedPreKeyRecord
  utf8 : Bytes → Option String
  jsonObject : List Char → Option Json

def Platform.plain : Platform where
  base64 := Plain.text
  preKey := Plain.preKeyData
  signedPreKey := Plain.signedPreKeyData
  utf8 bytes := some (Plain.text.encode bytes)
  jsonObject text := (JsonText.parse text).filter fun value =>
    match value with
    | .obj _ | .arr _ => true
    | _ => false

namespace ProtocolStorage

def get (type : DownloadsType) (archives : Archives) : Dictionary :=
  ((archives type).bind asDictionary).getD []

def save (array : Dictionary) (type : DownloadsType) (archives : Archives) : Archives :=
  Function.update archives type (some (.obj array))

@[simp] theorem get_save (array : Dictionary) (type other : DownloadsType) (archives : Archives) :
    get other (save array type archives) = if other = type then array else get other archives := by
  unfold get save
  by_cases same : other = type
  · subst same
    simp [asDictionary]
  · simp [same]

def setLocal (name : String) (value : Json) (archives : Archives) : Archives :=
  save (put name value (get LOCAL_JSON_FILENAME archives)) LOCAL_JSON_FILENAME archives

def getLocal (name : String) (archives : Archives) : Option Json := (get LOCAL_JSON_FILENAME archives).lookup name

def getLocalRegistrationId (archives : Archives) : Option Int := (getLocal "registrationId" archives).bind asUInt32

def storeLocalRegistrationId (registrationId : Int) : Archives → Archives :=
  setLocal "registrationId" (.num registrationId)

def storeIdentityKeyPair (p : Platform) (keyPair : KeyPair) (archives : Archives) : Archives :=
  let localJson := get LOCAL_JSON_FILENAME archives
  let localJson := put "identityKeyPairPrivateKey" (.str (p.base64.encode keyPair.privateKey)) localJson
  let localJson := put "identityKeyPairPublicKey" (.str (p.base64.encode keyPair.publicKey.bytes)) localJson
  save localJson LOCAL_JSON_FILENAME archives

def getIdentityKeyPair (p : Platform) (archives : Archives) : Option KeyPair := do
  let privateKey ← p.base64.decode (← (getLocal "identityKeyPairPrivateKey" archives).bind asString)
  let publicKey ← p.base64.decode (← (getLocal "identityKeyPairPublicKey" archives).bind asString)
  pure ⟨⟨publicKey⟩, privateKey⟩

def storeLocalUsername (username : String) : Archives → Archives := setLocal "username" (.str username)

def getLocalUsername (archives : Archives) : String := ((getLocal "username" archives).bind asString).getD ""

def getSignalingKey (archives : Archives) : String := ((getLocal "signalingKey" archives).bind asString).getD ""

def storeSignalingKey (signalingKey : String) : Archives → Archives := setLocal "signalingKey" (.str signalingKey)

def isLocalRegistered (archives : Archives) : Bool :=
  (getLocal "identityKeyPairPublicKey" archives).isSome && (getLocal "registrationId" archives).isSome

def storeSignalResetVersion (version : Int) : Archives → Archives := setLocal "signalResetVersion" (.num version)

def destroyAll (_ : Archives) : Archives := fun _ => none

def destroyByType (type : DownloadsType) (archives : Archives) : Archives := Function.update archives type none

def destroyAllExceptMessages (archives : Archives) : Archives :=
  let archives := destroyByType PRE_KEYS_JSON_FILENAME archives
  let archives := destroyByType SIGNED_PRE_KEYS_JSON_FILENAME archives
  let archives := destroyByType SESSIONS_JSON_FILENAME archives
  let archives := destroyByType IDENTITES_JSON_FILENAME archives
  destroyByType LOCAL_JSON_FILENAME archives

def removeRemoteIdentity (address : SignalProtocolAddress) (archives : Archives) : Archives :=
  save (erase address.name (get IDENTITES_JSON_FILENAME archives)) IDENTITES_JSON_FILENAME archives

end ProtocolStorage

open ProtocolStorage

namespace IdentityKeyStorePillar

def save (p : Platform) (identity : PublicKey) (address : SignalProtocolAddress) (archives : Archives) : Archives :=
  ProtocolStorage.save (put address.name (.str (p.base64.encode identity.bytes)) (get IDENTITES_JSON_FILENAME archives))
    IDENTITES_JSON_FILENAME archives

def isTrusted (p : Platform) (identity : PublicKey) (address : SignalProtocolAddress) (archives : Archives) : Bool :=
  match ((get IDENTITES_JSON_FILENAME archives).lookup address.name).bind asString with
  | none => true -- trust on first use
  | some baseString => baseString == p.base64.encode identity.bytes

end IdentityKeyStorePillar

/-- The records kept as Base64 under their id, which both pre key stores do alike. -/
def loadData (p : Platform) (type : DownloadsType) (id : Int) (archives : Archives) : Option Bytes :=
  (((get type archives).lookup (Decimal.toText id)).bind asString).bind p.base64.decode

def storeData (p : Platform) (type : DownloadsType) (data : Bytes) (id : Int) (archives : Archives) : Archives :=
  ProtocolStorage.save (put (Decimal.toText id) (.str (p.base64.encode data)) (get type archives)) type archives

namespace PreKeyStorePillar

def load (p : Platform) (preKey : Int) : Archives → Option Bytes := loadData p PRE_KEYS_JSON_FILENAME preKey

def store (p : Platform) (preKey : Bytes) (id : Int) : Archives → Archives :=
  storeData p PRE_KEYS_JSON_FILENAME preKey id

def remove (preKey : Int) (archives : Archives) : Archives :=
  ProtocolStorage.save (erase (Decimal.toText preKey) (get PRE_KEYS_JSON_FILENAME archives)) PRE_KEYS_JSON_FILENAME
    archives

/-- The largest stored id, or 0; a key that is no `UInt32` stops the app. -/
def getLastPreKeyIndex (archives : Archives) : Option Int :=
  (get PRE_KEYS_JSON_FILENAME archives).foldlM (fun index row => do
    let keyNumeric ← (Decimal.readInt row.1.toList).filter fun n => 0 ≤ n ∧ n < 2 ^ 32
    pure (if index < keyNumeric then keyNumeric else index)) 0

end PreKeyStorePillar

namespace SignedPreKeyStorePillar

def load (p : Platform) (signedPreKey : Int) : Archives → Option Bytes :=
  loadData p SIGNED_PRE_KEYS_JSON_FILENAME signedPreKey

def store (p : Platform) (signedPreKey : Bytes) (id : Int) : Archives → Archives :=
  storeData p SIGNED_PRE_KEYS_JSON_FILENAME signedPreKey id

end SignedPreKeyStorePillar

namespace SessionStorePillar

def loadSession (p : Platform) (address : SignalProtocolAddress) (archives : Archives) : Option (Bytes × Option Bytes) := do
  let data ← ((get SESSIONS_JSON_FILENAME archives).lookup address.name).bind asDictionary
  let session ← p.base64.decode (← (data.lookup "session").bind asString)
  let userRecord := ((data.lookup "userRecord").bind asString).bind p.base64.decode
  pure (session, userRecord)

-- a missing user record is archived as `NSNull`, which is no string when it is read back
def storeSession (p : Platform) (session : Bytes) (address : SignalProtocolAddress) (userRecord : Option Bytes)
    (archives : Archives) : Archives :=
  ProtocolStorage.save (put address.name
      (.obj [("session", .str (p.base64.encode session)), ("userRecord", (userRecord.map (.str ∘ p.base64.encode)).getD .null)])
      (get SESSIONS_JSON_FILENAME archives)) SESSIONS_JSON_FILENAME archives

/-- No user record comes with a session here. -/
def store (p : Platform) (session : SessionRecord) (address : SignalProtocolAddress) : Archives → Archives :=
  storeSession p session.state address none

def containsSession (address : SignalProtocolAddress) (archives : Archives) : Bool :=
  ((get SESSIONS_JSON_FILENAME archives).lookup address.name).isSome

def deleteSession (address : SignalProtocolAddress) (archives : Archives) : Archives :=
  ProtocolStorage.save (erase address.name (get SESSIONS_JSON_FILENAME archives)) SESSIONS_JSON_FILENAME archives

/-- The number of all the sessions there were, none of which stays. -/
def deleteAllSessions (_name : String) (archives : Archives) : Option Nat × Archives :=
  (some (get SESSIONS_JSON_FILENAME archives).count, ProtocolStorage.save [] SESSIONS_JSON_FILENAME archives)

end SessionStorePillar
end PillarSignal.Ios
