import PillarSignal.Android.Receive

namespace PillarSignal.Android

open Storage

structure PreKeyBundle where
  registrationId : Int
  deviceId : Int
  preKeyId : Int
  preKeyPublic : PublicKey
  signedPreKeyId : Int
  signedPreKeyPublic : PublicKey
  signedPreKeySignature : Bytes
  identityKey : PublicKey
deriving DecidableEq, Repr

/-- `SessionBuilder.process`: the calls by which it updates the stores, or the exception with which
    it leaves them as they are. -/
abbrev Process := PreKeyBundle → Except Thrown (List StoreCall)

/-- One call of `SessionCipher.encrypt`, with the registration id that the session then gives. -/
inductive Encryption where
  | ciphertext (bytes : Bytes) (remoteRegistrationId : Int) (calls : List StoreCall)
  | throws (e : Thrown)
deriving DecidableEq, Repr

inductive Rebuild where
  | waiting
  | serverFailed
  | noContact
  | failed (e : Thrown)
  | built
deriving DecidableEq, Repr

def caughtRebuilding (e : Thrown) : Bool := e ∈ [.json, .untrustedIdentity, .invalidKey, .io]

/-- A retry passes no promise: two of the three rejections then end in a null pointer on the main
    thread, and the third one is skipped. -/
def Rebuild.settle (username : String) (promise : Bool) : Rebuild → Except Thrown (Option Settlement)
  | .waiting => .ok none
  | .serverFailed => if promise then .ok (some Android.serverFailed) else .error .nullPointer
  | .noContact =>
    if promise then
      .ok (some (.reject (some .ERR_ADD_CONTACT_FAILED) (.message ("User " ++ username ++ " doesn't exist."))))
    else .error .nullPointer
  | .failed e => if caughtRebuilding e then .ok (if promise then some (nativeFailed e) else none) else .error e
  | .built => .ok (if promise then some (.resolve "ok") else none)

namespace SignalClient

variable (p : Platform)

def decodePoint (text : String) : Except Thrown PublicKey := do
  let _ ← decodeBase64 p text
  match p.texts.publicKey.decode text with
  | some publicKey => .ok publicKey
  | none => .error .invalidKey

def parseBundle (responseJSONO firstDevice : JSONObject) : Except Thrown PreKeyBundle := do
  let preKeyJSONO ← OrgJson.getJSONObject firstDevice "preKey"
  let preKeyPublic ← decodePoint p (← p.json.getString preKeyJSONO "publicKey")
  let signedPreKeyJSONO ← OrgJson.getJSONObject firstDevice "signedPreKey"
  let signedPreKeySignature ← p.json.getString signedPreKeyJSONO "signature"
  let signedPreKeyPublic ← decodePoint p (← p.json.getString signedPreKeyJSONO "publicKey")
  let identityKey ← decodePoint p (← p.json.getString responseJSONO "identityKey")
  let registrationId ← p.json.getInt firstDevice "registrationId"
  let deviceId ← p.json.getInt firstDevice "deviceId"
  let preKeyId ← p.json.getInt preKeyJSONO "keyId"
  let signedPreKeyId ← p.json.getInt signedPreKeyJSONO "keyId"
  let signature ← decodeBase64 p signedPreKeySignature
  pure ⟨registrationId, deviceId, preKeyId, preKeyPublic, signedPreKeyId, signedPreKeyPublic, signature, identityKey⟩

/-- "force delete: anytime when method is requested it will add new Identity Key and new Pre Key" -/
def forceDelete (address : SignalProtocolAddress) (files : Files) : Files :=
  ProtocolStorage.deleteSession p address (ProtocolStorage.removeIdentity p address files)

def rebuildSession (address : SignalProtocolAddress) (responseJSONO firstDevice : JSONObject) (process : Process)
    (files : Files) : Rebuild × Files :=
  let files := forceDelete p address files
  match (parseBundle p responseJSONO firstDevice).bind process with
  | .error e => (.failed e, files)
  | .ok calls => (.built, runCalls p address calls files)

def requestPreKeys (username : String) (exchange : Exchange) (process : Process) (files : Files) : Rebuild × Files :=
  match exchange with
  | .dropped => (.waiting, files)
  | .failed => (.serverFailed, files)
  | .answered response =>
    if response.code = 404 then (.noContact, files)
    else
      let responseJSONO := ServerResponse.getResponseJSONObject p response
      match OrgJson.optJSONArray responseJSONO "devices" with
      | none | some [] => (.noContact, files)
      | some (.obj firstDevice :: _) => rebuildSession p ⟨username, 1⟩ responseJSONO firstDevice process files
      | some (_ :: _) => (.failed .json, files)

theorem upkeep_forceDelete (address : SignalProtocolAddress) (files : Files) :
    ProtocolStorage.Upkeep p files (forceDelete p address files) :=
  (ProtocolStorage.Upkeep.refl.removeIdentity address).deleteSession address

/-- The answer and the device for which a session is built; the contact's identity and session
    are deleted once there is one. -/
def firstDevice (exchange : Exchange) : Option (JSONObject × JSONObject) :=
  match exchange with
  | .answered response =>
    if response.code = 404 then none
    else
      let responseJSONO := ServerResponse.getResponseJSONObject p response
      match OrgJson.optJSONArray responseJSONO "devices" with
      | some (.obj firstDevice :: _) => some (responseJSONO, firstDevice)
      | _ => none
  | _ => none

variable {p}

theorem requestPreKeys_of_device {username : String} {exchange : Exchange} {responseJSONO device : JSONObject}
    (reached : firstDevice p exchange = some (responseJSONO, device)) (process : Process) (files : Files) :
    requestPreKeys p username exchange process files =
      rebuildSession p ⟨username, 1⟩ responseJSONO device process files := by
  unfold firstDevice at reached
  split at reached
  · split at reached
    · cases reached
    · rename_i found
      dsimp only at reached
      split at reached
      · rename_i devices
        cases reached
        simp only [requestPreKeys, if_neg found, devices]
      · cases reached
  · cases reached

theorem requestPreKeys_of_no_device {exchange : Exchange} (none_reached : firstDevice p exchange = none)
    (username : String) (process : Process) (files : Files) :
    (requestPreKeys p username exchange process files).2 = files ∧
      (requestPreKeys p username exchange process files).1 ∈ [.waiting, .serverFailed, .noContact, .failed .json] := by
  unfold requestPreKeys
  cases exchange with
  | dropped => exact ⟨rfl, by simp⟩
  | failed => exact ⟨rfl, by simp⟩
  | answered response =>
    dsimp only [firstDevice] at none_reached ⊢
    split
    · exact ⟨rfl, by simp⟩
    · rename_i found
      rw [if_neg found] at none_reached
      split
      · exact ⟨rfl, by simp⟩
      · exact ⟨rfl, by simp⟩
      · rename_i devices
        simp [devices] at none_reached
      · exact ⟨rfl, by simp⟩

theorem rebuildSession_failed_iff (address : SignalProtocolAddress) (responseJSONO device : JSONObject) (process : Process)
    (files : Files) (e : Thrown) :
    (rebuildSession p address responseJSONO device process files).1 = .failed e ↔
      (parseBundle p responseJSONO device).bind process = .error e := by
  unfold rebuildSession
  dsimp only
  cases (parseBundle p responseJSONO device).bind process <;> simp

theorem requestPreKeys_built_iff (username : String) (exchange : Exchange) (process : Process) (files : Files) :
    (requestPreKeys p username exchange process files).1 = .built ↔
      ∃ responseJSONO device bundle calls, firstDevice p exchange = some (responseJSONO, device) ∧
        parseBundle p responseJSONO device = .ok bundle ∧ process bundle = .ok calls := by
  cases reached : firstDevice p exchange with
  | none =>
    have unbuilt := (requestPreKeys_of_no_device reached username process files).2
    refine iff_of_false (fun built => ?_) (by simp)
    rw [built] at unbuilt
    simp at unbuilt
  | some pair =>
    obtain ⟨responseJSONO, device⟩ := pair
    rw [requestPreKeys_of_device reached]
    unfold rebuildSession
    dsimp only
    cases parsed : parseBundle p responseJSONO device with
    | error e => simp [Except.bind, parsed]
    | ok bundle =>
      cases processed : process bundle <;> simp [Except.bind, processed, parsed]

theorem upkeep_rebuildSession (address : SignalProtocolAddress) (responseJSONO firstDevice : JSONObject)
    (process : Process) (files : Files) :
    ProtocolStorage.Upkeep p files (rebuildSession p address responseJSONO firstDevice process files).2 := by
  unfold rebuildSession
  dsimp only
  split
  · exact upkeep_forceDelete p address files
  · exact (upkeep_forceDelete p address files).trans (upkeep_runCalls ..)

theorem upkeep_requestPreKeys (username : String) (exchange : Exchange) (process : Process) (files : Files) :
    ProtocolStorage.Upkeep p files (requestPreKeys p username exchange process files).2 := by
  cases reached : firstDevice p exchange with
  | some pair =>
    rw [requestPreKeys_of_device reached]
    exact upkeep_rebuildSession ..
  | none =>
    rw [(requestPreKeys_of_no_device reached ..).1]
    exact .refl

end SignalClient

namespace RNSignalClientModule

def addContact (p : Platform) (username : String) (forceAdd : Bool) (exchange : Exchange) (process : Process)
    (files : Files) : Except Thrown (Option Settlement) × Files :=
  if !ProtocolStorage.containsSession p ⟨username, 1⟩ files || forceAdd then
    let (rebuild, files) := SignalClient.requestPreKeys p username exchange process files
    (rebuild.settle username true, files)
  else (.ok (some (.resolve "ok")), files)

theorem upkeep_addContact (p : Platform) (username : String) (forceAdd : Bool) (exchange : Exchange) (process : Process)
    (files : Files) : ProtocolStorage.Upkeep p files (addContact p username forceAdd exchange process files).2 := by
  unfold addContact
  split
  · exact SignalClient.upkeep_requestPreKeys ..
  · exact .refl

end RNSignalClientModule
end PillarSignal.Android
