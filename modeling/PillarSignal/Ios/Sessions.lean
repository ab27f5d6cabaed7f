import PillarSignal.Ios.Receive

namespace PillarSignal.Ios

open Storage ProtocolStorage

structure SessionPreKeyBundle where
  registrationId : Int
  preKeyId : Int
  preKey : Bytes
  signedPreKeyId : Int
  signedPreKey : Bytes
  signature : Bytes
  identityKey : Bytes
deriving DecidableEq, Repr

/-- `SessionBuilder.process`: the calls by which it updates the stores, or the error with which it
    leaves them as they are. -/
abbrev Process := SessionPreKeyBundle → Except SignalError (List StoreCall)

/-- How a request for a contact's keys ends; an id that is no `UInt32` stops the app, and so does the library when it
    reads a buffer that is not there. -/
inductive Rebuild where
  | waiting
  | failure (failure : Failure)
  | crashed
  | overrun
  | built
deriving DecidableEq, Repr

namespace SignalClient

variable (p : Platform)

def dictionaryField (name : String) (dictionary : Dictionary) : Option Dictionary :=
  (dictionary.lookup name).bind asDictionary

def dataField (name : String) (dictionary : Dictionary) : Option Bytes :=
  ((dictionary.lookup name).bind asString).bind p.base64.decode

def intField (name : String) (dictionary : Dictionary) : Option Int := (dictionary.lookup name).bind asInt

def parseBundle (dict : Dictionary) : Option SessionPreKeyBundle := do
  let devices ← (dict.lookup "devices").bind asDictionaries
  let identityData ← dataField p "identityKey" dict
  let firstDevice ← devices.head?
  let _ ← intField "deviceId" firstDevice
  let registrationId ← intField "registrationId" firstDevice
  let preKey ← dictionaryField "preKey" firstDevice
  let preKeyId ← intField "keyId" preKey
  let preKeyData ← dataField p "publicKey" preKey
  let signedPreKey ← dictionaryField "signedPreKey" firstDevice
  let signedPreKeyId ← intField "keyId" signedPreKey
  let signedPreKeyData ← dataField p "publicKey" signedPreKey
  let signature ← dataField p "signature" signedPreKey
  pure ⟨registrationId, preKeyId, preKeyData, signedPreKeyId, signedPreKeyData, signature, identityData⟩

def isUInt32 (value : Int) : Bool := 0 ≤ value && value < 2 ^ 32

def SessionPreKeyBundle.fits (bundle : SessionPreKeyBundle) : Bool :=
  isUInt32 bundle.registrationId && isUInt32 bundle.preKeyId && isUInt32 bundle.signedPreKeyId

/-- What `curve_decode_point` takes. -/
def isPoint (data : Bytes) : Bool := data.length == 33 && data.head? == some 5

/-- For an empty signature `session_pre_key_bundle_create` makes no buffer, and `session_builder_process_pre_key_bundle`
    reads it once it has the keys and trusts the identity, of which the store has just been rid. -/
def SessionPreKeyBundle.unsigned (bundle : SessionPreKeyBundle) : Bool :=
  isPoint bundle.preKey && isPoint bundle.signedPreKey && isPoint bundle.identityKey && bundle.signature.isEmpty

/-- "force delete: anytime when method is requested it will add new Identity Key and new Pre Key" -/
def forceDelete (address : SignalProtocolAddress) (archives : Archives) : Archives :=
  SessionStorePillar.deleteSession address (removeRemoteIdentity address archives)

def requestPreKeys (store : Bool) (username : String) (exchange : Exchange) (process : Process) (archives : Archives) :
    Rebuild × Archives :=
  match SignalServer.call p exchange with
  | .neither => (.waiting, archives)
  | .failure .notFound =>
    (.failure ⟨.ERR_ADD_CONTACT_FAILED, .text ("User " ++ username ++ " doesn't exist.")⟩, archives)
  | .failure error => (.failure ⟨.ERR_SERVER_FAILED, .server error⟩, archives)
  | .success dict =>
    match parseBundle p dict with
    | none => (.failure ⟨.ERR_ADD_CONTACT_FAILED, .text ("User " ++ username ++ " keys doesn't exist.")⟩, archives)
    | some bundle =>
      if !SessionPreKeyBundle.fits bundle then (.crashed, archives)
      else if !store then (.failure ⟨.ERR_NATIVE_FAILED, .text "store failed"⟩, archives)
      else
        let archives := forceDelete ⟨username, 1⟩ archives
        if SessionPreKeyBundle.unsigned bundle then (.overrun, archives)
        else
          match process bundle with
          | .error error => (.failure ⟨.ERR_NATIVE_FAILED, .signal error⟩, archives)
          | .ok calls => (.built, runCalls p ⟨username, 1⟩ calls archives)

theorem upkeep_forceDelete (address : SignalProtocolAddress) (archives : Archives) :
    Upkeep archives (forceDelete address archives) :=
  (upkeep_save (by simp) _ archives).trans (upkeep_save (by simp) ..)

theorem upkeep_requestPreKeys (store : Bool) (username : String) (exchange : Exchange) (process : Process)
    (archives : Archives) : Upkeep archives (requestPreKeys p store username exchange process archives).2 := by
  unfold requestPreKeys
  split
  · exact .refl archives
  · exact .refl archives
  · exact .refl archives
  · split
    · exact .refl archives
    · split
      · exact .refl archives
      · split
        · exact .refl archives
        · dsimp only
          split
          · exact upkeep_forceDelete ..
          · split
            · exact upkeep_forceDelete ..
            · exact (upkeep_forceDelete ..).trans (upkeep_runCalls ..)

end SignalClient

namespace RNSignalClientModule

def addContact (p : Platform) (store : Bool) (username : String) (forceAdd : Bool) (exchange : Exchange)
    (process : Process) (archives : Archives) : Rebuild × Archives :=
  if store && (!SessionStorePillar.containsSession ⟨username, 1⟩ archives || forceAdd) then
    SignalClient.requestPreKeys p store username exchange process archives
  else (.built, archives)

theorem upkeep_addContact (p : Platform) (store : Bool) (username : String) (forceAdd : Bool) (exchange : Exchange)
    (process : Process) (archives : Archives) :
    Upkeep archives (addContact p store username forceAdd exchange process archives).2 := by
  unfold addContact
  split
  · exact SignalClient.upkeep_requestPreKeys ..
  · exact .refl archives

end RNSignalClientModule
end PillarSignal.Ios
