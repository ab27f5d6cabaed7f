import PillarSignal.Protocol.KeyHelper
import PillarSignal.Android.MessageFiles
import PillarSignal.Android.Server

namespace PillarSignal.Android

open Storage

structure Config where
  host : Option String
  username : Option String
  accessToken : Option String

structure AccountDraw where
  registrationId : Int
  signalingKey : Bytes

namespace SignalClient

variable (p : Platform) {verify : Verify}

def loadIdentity (generated : Generated verify) (files : Files) : KeyPair × Files :=
  match ProtocolStorage.getIdentityKeyPair p files with
  | some identityKeyPair => (identityKeyPair, files)
  | none => (generated.identityKeyPair, ProtocolStorage.storeIdentityKeyPair p generated.identityKeyPair files)

/-- A last resort key is generated when none is stored; it is not stored then. -/
def loadLastResort (generated : Generated verify) (files : Files) : PreKeyRecord :=
  (ProtocolStorage.loadPreKey p MEDIUM_MAX_VALUE files).getD ⟨MEDIUM_MAX_VALUE, generated.lastResortKeyPair⟩

def storePreKeys (preKeys : List PreKeyRecord) (files : Files) : Files :=
  preKeys.foldl (fun files record => ProtocolStorage.storePreKey p record.id record files) files

def loadSigned (generated : Generated verify) (identity : KeyPair) (files : Files) : SignedPreKeyRecord × Files :=
  match ProtocolStorage.loadSignedPreKey p 0 files with
  | some signedPreKey => (signedPreKey, files)
  | none =>
    let signedPreKey := generated.signedPreKey identity 0
    (signedPreKey, ProtocolStorage.storeSignedPreKey p signedPreKey.id signedPreKey files)

/-- `registerPreKeys` up to its `PUT` request: what it uploads, and the files at that moment. -/
def registerPreKeys (generated : Generated verify) (start count : Int) (files : Files) : Upload × Files :=
  let (identity, files) := loadIdentity p generated files
  let lastResortKey := loadLastResort p generated files
  let preKeys := generated.preKeys toInt start count.toNat
  let files := storePreKeys p preKeys files
  let (signedPreKey, files) := loadSigned p generated identity files
  (⟨lastResortKey, preKeys, identity.publicKey, signedPreKey⟩, files)

section Registration

open ProtocolStorage StorageFile

variable {p}

theorem loadIdentity_updates (generated : Generated verify) (files : Files) :
    Updates p LOCAL_JSON_FILENAME files (loadIdentity p generated files).2 := by
  unfold loadIdentity
  split
  · exact .refl
  · exact Updates.refl.storeOnce ..

theorem storePreKeys_updates (preKeys : List PreKeyRecord) (files : Files) :
    Updates p PRE_KEYS_JSON_FILENAME files (storePreKeys p preKeys files) := by
  unfold storePreKeys
  induction preKeys using List.reverseRecOn with
  | nil => exact .refl
  | append_singleton preKeys record ih =>
    rw [List.foldl_append]
    exact ih.storeRecord p.texts.preKey (valueOf record.id) record

theorem loadSigned_updates (generated : Generated verify) (identity : KeyPair) (files : Files) :
    Updates p SIGNED_PRE_KEYS_JSON_FILENAME files (loadSigned p generated identity files).2 := by
  unfold loadSigned
  split
  · exact .refl
  · exact Updates.refl.storeRecord p.texts.signedPreKey (valueOf 0) (generated.signedPreKey identity 0)

theorem framed_registerPreKeys (generated : Generated verify) (start count : Int) (files : Files) :
    Framed p files (registerPreKeys p generated start count files).2 :=
  (loadIdentity_updates generated files).framed.trans
    ((storePreKeys_updates ..).framed.trans (loadSigned_updates generated ..).framed)

end Registration

inductive Checked where
  | settled (settlement : Settlement)
  | refill (start count : Int)
  | escaped (e : Thrown)
  | waiting
deriving DecidableEq, Repr

def checkRemotePreKeys (exchange : Exchange) (files : Files) : Checked :=
  match exchange with
  | .dropped => .waiting
  | .failed => .settled serverFailed
  | .answered response =>
    let preKeyCount := p.json.optInt (ServerResponse.getResponseJSONObject p response) "count" 0
    if preKeyCount ≤ 10 ∧ response.code = 200 then
      match ProtocolStorage.getLastPreKeyIndex p files with
      | .ok last => .refill (toInt (last + 1)) (toInt (100 - preKeyCount))
      | .error e => .escaped e
    else .settled (.resolve "ok")

inductive AccountRequest where
  | attributes (request : JSONObject)
  | accounts (request : JSONObject)
deriving DecidableEq

def accountJSON (signalingKey : String) (registrationId : Int) (name : String) : JSONObject :=
  [("signalingKey", .str signalingKey), ("fetchesMessages", .bool true), ("registrationId", .num registrationId),
   ("name", .str name), ("voice", .bool false)]

def signalResetVersion : Int := 0

/-- The stored signaling key; a missing or empty one is replaced, for accounts from before it was used. -/
def ensureSignalingKey (draw : AccountDraw) (files : Files) : String × Files :=
  let stored := (ProtocolStorage.getSignalingKey p files).getD ""
  if stored = "" then
    (p.texts.bytes.encode draw.signalingKey,
      ProtocolStorage.storeSignalingKey p (p.texts.bytes.encode draw.signalingKey) files)
  else (stored, files)

/-- `registerAccount` up to its request, whose answer leads to `registerPreKeys` with 100 keys from 0. -/
def registerAccount (username : String) (draw : AccountDraw) (files : Files) : AccountRequest × Files :=
  if ProtocolStorage.isLocalRegistered p files then
    let ensured := ensureSignalingKey p draw files
    (.attributes (accountJSON ensured.1 (ProtocolStorage.getLocalRegistrationId p ensured.2)
      (ProtocolStorage.getLocalUsername p ensured.2)), ensured.2)
  else
    let signalingKey := p.texts.bytes.encode draw.signalingKey
    let files := ProtocolStorage.storeLocalUsername p username files
    let files := ProtocolStorage.storeLocalRegistrationId p draw.registrationId files
    let files := ProtocolStorage.storeSignalingKey p signalingKey files
    let files := ProtocolStorage.storeSignalResetVersion p signalResetVersion files
    (.accounts (accountJSON signalingKey draw.registrationId username), files)

theorem registerAccount_updates (username : String) (draw : AccountDraw) (files : Files) :
    ProtocolStorage.Updates p .LOCAL_JSON_FILENAME files (registerAccount p username draw files).2 := by
  have none_yet : ProtocolStorage.Updates p .LOCAL_JSON_FILENAME files files := .refl
  unfold registerAccount
  split
  · dsimp only
    unfold ensureSignalingKey
    dsimp only
    split
    · exact none_yet.storeField ..
    · exact none_yet
  · have named := none_yet.storeOnce "username" (.str username)
    have numbered := named.storeOnce "registrationId" (.num draw.registrationId)
    have keyed := numbered.storeField "signalingKey" (.str (p.texts.bytes.encode draw.signalingKey))
    exact keyed.storeField "signalResetVersion" (.num signalResetVersion)

theorem entry_registerAccount (username : String) (draw : AccountDraw) {files : Files}
    (ready : ProtocolStorage.Ready p files) {key : String}
    (other : key ∉ ["username", "registrationId", "signalingKey", "signalResetVersion"]) :
    ProtocolStorage.entry p .LOCAL_JSON_FILENAME key (registerAccount p username draw files).2 =
      ProtocolStorage.entry p .LOCAL_JSON_FILENAME key files := by
  simp only [List.mem_cons, List.not_mem_nil, or_false, not_or] at other
  obtain ⟨not_username, not_id, not_key, not_version⟩ := other
  unfold registerAccount
  split
  · dsimp only
    unfold ensureSignalingKey
    dsimp only
    split
    · exact ProtocolStorage.entry_storeField ready (Ne.symm not_key) ..
    · rfl
  · have none_yet : ProtocolStorage.Updates p .LOCAL_JSON_FILENAME files files := .refl
    have named := none_yet.storeOnce "username" (.str username)
    have numbered := named.storeOnce "registrationId" (.num draw.registrationId)
    have keyed := numbered.storeField "signalingKey" (.str (p.texts.bytes.encode draw.signalingKey))
    calc _ = _ := ProtocolStorage.entry_storeField (keyed.framed.ready ready) (Ne.symm not_version) ..
      _ = _ := ProtocolStorage.entry_storeField (numbered.framed.ready ready) (Ne.symm not_key) ..
      _ = _ := ProtocolStorage.entry_storeOnce (named.framed.ready ready) (Ne.symm not_id) ..
      _ = _ := ProtocolStorage.entry_storeOnce ready (Ne.symm not_username) ..

end SignalClient

namespace RNSignalClientModule

variable (p : Platform)

inductive Initialised where
  | rejected (code : Option PromiseRejectCode) (reason : Reason)
  | checking
  | registering (request : SignalClient.AccountRequest)
deriving DecidableEq

def performSoftReset (files : Files) : Except Thrown Bool :=
  (ProtocolStorage.getLastPreKeyIndex p files).map fun last => decide (last > 300)

/-- What `init` deletes before it registers. -/
def wiped (softReset : Bool) (files : Files) : Files :=
  if softReset then ProtocolStorage.deleteAll p files
  else MessageStorage.deleteAll p (ProtocolStorage.deleteAll p files)

def init (config : Config) (draw : AccountDraw) (files : Files) : Initialised × Files :=
  match config.host, config.username, config.accessToken with
  | some _, some username, some _ =>
    match performSoftReset p files with
    | .error e => (.rejected none (.thrown e), files)
    | .ok softReset =>
      if !softReset && ProtocolStorage.getLocalUsername p files == username &&
          ProtocolStorage.isLocalRegistered p files then (.checking, files)
      else
        let (request, files) := SignalClient.registerAccount p username draw (wiped p softReset files)
        (.registering request, files)
  | _, _, _ => (.rejected (some .ERR_WRONG_CONFIG) (.message "Wrong config provided."), files)

def resetAccount (files : Files) : Settlement × Files :=
  (.resolve "ok", MessageStorage.deleteAll p (ProtocolStorage.deleteAll p files))

variable {p}

theorem wiped_empty (softReset : Bool) (files : Files) (file : ProtocolStorage.StorageFile) :
    ProtocolStorage.readObject p file (wiped p softReset files) = .ok [] := by
  unfold wiped
  split
  · exact ProtocolStorage.readObject_deleteAll file files
  · rw [MessageStorage.readObject_deleteAll]
    exact ProtocolStorage.readObject_deleteAll file files

theorem wiped_ready {softReset : Bool} {files : Files} (ready : ProtocolStorage.Ready p files) :
    ProtocolStorage.Ready p (wiped p softReset files) := by
  unfold wiped
  split
  · exact ready.deleteAll
  · exact MessageStorage.ready_deleteAll ready.deleteAll

theorem init_cases (config : Config) (draw : AccountDraw) (files : Files) :
    ((init p config draw files).2 = files ∧ ∀ request, (init p config draw files).1 ≠ .registering request) ∨
    ∃ softReset username, config.username = some username ∧ performSoftReset p files = .ok softReset ∧
      init p config draw files =
        (.registering (SignalClient.registerAccount p username draw (wiped p softReset files)).1,
          (SignalClient.registerAccount p username draw (wiped p softReset files)).2) := by
  unfold init
  split
  · rename_i named _
    split
    · exact .inl ⟨rfl, nofun⟩
    · rename_i decided
      split
      · exact .inl ⟨rfl, nofun⟩
      · exact .inr ⟨_, _, named, decided, rfl⟩
  · exact .inl ⟨rfl, nofun⟩

end RNSignalClientModule
end PillarSignal.Android
