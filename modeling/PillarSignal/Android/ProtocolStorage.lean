import PillarSignal.Storage.Disk
import PillarSignal.Android.OrgJson
import PillarSignal.Protocol.Plain

namespace PillarSignal.Android

open Storage

/-- What surrounds the module on a device: the JSON library, the text forms of
    libsignal's records, `new String(bytes, "UTF-8")`, and the directory that holds the
    module's files. -/
structure Platform where
  json : OrgJson
  texts : RecordTexts
  newString : Bytes → String
  filesDir : Path

/-- A platform on which the model can be run: JSON as `JsonText` writes it, plain record texts. -/
def Platform.plain : Platform where
  json := { JsonText.codec with
    intOfText := fun text => (Decimal.readInt text.toList).map toInt
    longOfText := fun text => (Decimal.readInt text.toList).map toLong }
  texts := Plain.texts
  newString := Plain.text.encode
  filesDir := []

abbrev Files := Disk Char

def filesIn (dir : Path) (entries : List (String × String)) (files : Files) : Files :=
  let tree := entries.foldl (fun tree entry => tree.write (entry.1 :: dir) entry.2.toList) (files.tree.mkdirs dir)
  { files with tree }

def noFiles : Files := ⟨FileTree.root, fun _ => []⟩

/-- Reading by lines and joining them drops every line break. -/
def joinLines (text : List Char) : List Char := text.filter fun c => c ≠ '\n' ∧ c ≠ '\r'

theorem joinLines_of_unbroken {text : List Char} (unbroken : Unbroken text) : joinLines text = text := by
  apply List.filter_eq_self.mpr
  intro c member
  simpa using unbroken c member

def addressText (address : SignalProtocolAddress) : String := address.name ++ ":" ++ valueOf address.deviceId

theorem addressText_injective : Function.Injective addressText := by
  intro a b same
  have texts := congrArg String.toList same
  simp only [addressText, valueOf, Decimal.toText, String.toList_append, String.toList_ofList, List.append_assoc] at texts
  obtain ⟨names, devices⟩ := Decimal.append_intText_inj (by decide) texts
  cases a
  cases b
  simp only [SignalProtocolAddress.mk.injEq]
  exact ⟨String.toList_injective names, devices⟩

namespace ProtocolStorage

inductive StorageFile where
  | PRE_KEYS_JSON_FILENAME
  | SIGNED_PRE_KEYS_JSON_FILENAME
  | SESSIONS_JSON_FILENAME
  | IDENTITES_JSON_FILENAME
  | LOCAL_JSON_FILENAME
deriving DecidableEq, Repr

open StorageFile

def StorageFile.fileName : StorageFile → String
  | PRE_KEYS_JSON_FILENAME => "prekeys.json"
  | SIGNED_PRE_KEYS_JSON_FILENAME => "signed_prekeys.json"
  | SESSIONS_JSON_FILENAME => "sessions.json"
  | IDENTITES_JSON_FILENAME => "identites.json"
  | LOCAL_JSON_FILENAME => "user.json"

variable (p : Platform)

def directory : Path := "signal" :: p.filesDir

def readFromStorage (file : StorageFile) (files : Files) : Option (List Char) :=
  (files.tree.readFile p.filesDir ["signal", file.fileName]).map joinLines

def writeToStorageFile (file : StorageFile) (data : List Char) (files : Files) : Files :=
  let opened := { files with tree := files.tree.makeDirs p.filesDir ["signal"] }
  match opened.tree.resolve p.filesDir ["signal", file.fileName] with
  | some path => opened.write path data
  | none => opened

/-- Every entry of the directory is deleted; what is below a subdirectory stays. -/
def deleteAll (files : Files) : Files := { files with tree := files.tree.clearDir (directory p) }

/-- `data == null || data.isEmpty()` falls back on an empty object. -/
def readObject (file : StorageFile) (files : Files) : Except Thrown JSONObject :=
  match readFromStorage p file files with
  | none | some [] => p.json.newJSONObject ['{', '}']
  | some data => p.json.newJSONObject data

def writeObject (file : StorageFile) (object : JSONObject) (files : Files) : Files :=
  writeToStorageFile p file (p.json.print (.obj object)) files

/-- Read a file's object and write back what `edit` makes of it; a file that does
    not parse, and an edit that declines, leave everything as it is. -/
def updateObject (file : StorageFile) (edit : JSONObject → Option JSONObject) (files : Files) : Files :=
  match readObject p file files with
  | .error _ => files
  | .ok object =>
    match edit object with
    | none => files
    | some edited => writeObject p file edited files

def isLocalRegistered (files : Files) : Bool :=
  match readObject p LOCAL_JSON_FILENAME files with
  | .error _ => false
  | .ok data => OrgJson.has data "identityKeyPair" && !OrgJson.isNull data "identityKeyPair" &&
      OrgJson.has data "registrationId" && !OrgJson.isNull data "registrationId"

def storeOnce (name : String) (value : Json) : Files → Files :=
  updateObject p LOCAL_JSON_FILENAME fun data =>
    if !OrgJson.has data name || OrgJson.isNull data name then some (put name value data) else none

def storeField (name : String) (value : Json) : Files → Files :=
  updateObject p LOCAL_JSON_FILENAME fun data => some (put name value data)

def storeLocalUsername (username : String) : Files → Files := storeOnce p "username" (.str username)

def storeIdentityKeyPair (identityKeyPair : KeyPair) : Files → Files :=
  storeOnce p "identityKeyPair" (.str (p.texts.identityKeyPair.encode identityKeyPair))

def storeLocalRegistrationId (registrationId : Int) : Files → Files :=
  storeOnce p "registrationId" (.num registrationId)

def storeSignalingKey (signalingKey : String) : Files → Files := storeField p "signalingKey" (.str signalingKey)

def storeSignalResetVersion (version : Int) : Files → Files := storeField p "signalResetVersion" (.num version)

def localField (name : String) (files : Files) : Option Json :=
  match readFromStorage p LOCAL_JSON_FILENAME files with
  | none | some [] => none
  | some text =>
    match p.json.newJSONObject text with
    | .error _ => none
    | .ok data => if !OrgJson.has data name || OrgJson.isNull data name then none else data.lookup name

def getIdentityKeyPair (files : Files) : Option KeyPair :=
  (localField p "identityKeyPair" files).bind fun value =>
    p.texts.identityKeyPair.decode (p.json.toText value)

def getLocalRegistrationId (files : Files) : Int :=
  ((localField p "registrationId" files).bind p.json.asInteger).getD 0

def getLocalUsername (files : Files) : String :=
  ((localField p "username" files).map p.json.toText).getD ""

def getSignalingKey (files : Files) : Option String :=
  (localField p "signalingKey" files).map p.json.toText

def getSignalResetVersion (files : Files) : Int :=
  ((localField p "signalResetVersion" files).bind p.json.asInteger).getD 0

def saveIdentity (address : SignalProtocolAddress) (identityKey : PublicKey) : Files → Files :=
  updateObject p IDENTITES_JSON_FILENAME fun data =>
    some (put (addressText address) (.obj [("identityKey", .str (p.texts.publicKey.encode identityKey))]) data)

def removeKey (file : StorageFile) (key : String) : Files → Files :=
  updateObject p file fun data => if OrgJson.has data key then some (erase key data) else none

def removeIdentity (address : SignalProtocolAddress) : Files → Files :=
  removeKey p IDENTITES_JSON_FILENAME (addressText address)

def isTrustedIdentity (address : SignalProtocolAddress) (identityKey : PublicKey) (files : Files) : Bool :=
  match readFromStorage p IDENTITES_JSON_FILENAME files with
  | none | some [] => true -- trust on first use
  | some text =>
    match p.json.newJSONObject text with
    | .error _ => false
    | .ok data =>
      if OrgJson.has data (addressText address) then
        match (OrgJson.getJSONObject data (addressText address)).bind fun entry => p.json.getString entry "identityKey" with
        | .error _ => false
        | .ok encoded => p.texts.publicKey.decode encoded = some identityKey
      else true -- trust on first use

def loadRecord {α : Type} (codec : TextCodec α) (file : StorageFile) (key : String) (files : Files) : Option α :=
  match readFromStorage p file files with
  | none | some [] => none
  | some text =>
    match p.json.newJSONObject text with
    | .error _ => none
    | .ok data => (data.lookup key).bind fun value => codec.decode (p.json.toText value)

def storeRecord {α : Type} (codec : TextCodec α) (file : StorageFile) (key : String) (record : α) : Files → Files :=
  updateObject p file fun data => some (put key (.str (codec.encode record)) data)

def loadPreKey (preKeyId : Int) : Files → Option PreKeyRecord :=
  loadRecord p p.texts.preKey PRE_KEYS_JSON_FILENAME (valueOf preKeyId)

def storePreKey (preKeyId : Int) (record : PreKeyRecord) : Files → Files :=
  storeRecord p p.texts.preKey PRE_KEYS_JSON_FILENAME (valueOf preKeyId) record

def containsPreKey (preKeyId : Int) (files : Files) : Bool := (loadPreKey p preKeyId files).isSome

def removePreKey (preKeyId : Int) : Files → Files := removeKey p PRE_KEYS_JSON_FILENAME (valueOf preKeyId)

/-- `none` is the fresh record that the code returns when nothing is stored. -/
def loadSession (address : SignalProtocolAddress) : Files → Option SessionRecord :=
  loadRecord p p.texts.session SESSIONS_JSON_FILENAME (addressText address)

def containsSession (address : SignalProtocolAddress) (files : Files) : Bool := (loadSession p address files).isSome

def deleteSession (address : SignalProtocolAddress) : Files → Files :=
  removeKey p SESSIONS_JSON_FILENAME (addressText address)

/-- The file is read before an old session is deleted, and that reading is written back. -/
def storeSession (address : SignalProtocolAddress) (record : SessionRecord) (files : Files) : Files :=
  let data := readObject p SESSIONS_JSON_FILENAME files
  let files := if containsSession p address files then deleteSession p address files else files
  match data with
  | .error _ => files
  | .ok data => writeObject p SESSIONS_JSON_FILENAME (put (addressText address) (.str (p.texts.session.encode record)) data) files

def loadSignedPreKey (signedPreKeyId : Int) : Files → Option SignedPreKeyRecord :=
  loadRecord p p.texts.signedPreKey SIGNED_PRE_KEYS_JSON_FILENAME (valueOf signedPreKeyId)

def storeSignedPreKey (signedPreKeyId : Int) (record : SignedPreKeyRecord) : Files → Files :=
  storeRecord p p.texts.signedPreKey SIGNED_PRE_KEYS_JSON_FILENAME (valueOf signedPreKeyId) record

def containsSignedPreKey (signedPreKeyId : Int) (files : Files) : Bool := (loadSignedPreKey p signedPreKeyId files).isSome

/-- A value that is no string is passed over; one that does not decode ends the loop with what it has so far. -/
def signedPreKeysOf : JSONObject → List SignedPreKeyRecord
  | [] => []
  | (_, .str text) :: rows =>
    match p.texts.signedPreKey.decode text with
    | none => []
    | some record => record :: signedPreKeysOf rows
  | _ :: rows => signedPreKeysOf rows

def loadSignedPreKeys (files : Files) : List SignedPreKeyRecord :=
  match readFromStorage p SIGNED_PRE_KEYS_JSON_FILENAME files with
  | none | some [] => []
  | some text =>
    match p.json.newJSONObject text with
    | .error _ => []
    | .ok data => signedPreKeysOf p data

-- the file that is read and written back here is the one of the sessions
def removeSignedPreKey (signedPreKeyId : Int) : Files → Files :=
  removeKey p SESSIONS_JSON_FILENAME (valueOf signedPreKeyId)

/-- All of the method's body is commented out. -/
def deleteAllSessions (_name : String) (files : Files) : Files := files

/-- The largest stored id, or 0; a key that is no number ends it with an exception. -/
def getLastPreKeyIndex (files : Files) : Except Thrown Int :=
  match readFromStorage p PRE_KEYS_JSON_FILENAME files with
  | none | some [] => .ok 0
  | some text =>
    match p.json.newJSONObject text with
    | .error _ => .ok 0
    | .ok data => data.foldlM (fun keyId row => do
        let numericKeyIndex ← parseInt row.1
        pure (if numericKeyIndex > keyId then numericKeyIndex else keyId)) 0

end ProtocolStorage
end PillarSignal.Android
