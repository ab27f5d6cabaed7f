import PillarSignal.Libsignal.Messages
import PillarSignal.Libsignal.SessionStructure

namespace PillarSignal.Libsignal

open Protobuf FieldDescriptor

structure SessionPreKey where
  id : UInt32
  keyPair : EcKeyPair
deriving DecidableEq, Repr

namespace SessionPreKey

def serialize (preKey : SessionPreKey) : Bytes :=
  PreKeyRecordStructure.descriptor.pack
    ⟨some preKey.id, some (ecPublicKeySerialize preKey.keyPair.publicKey), some (ecPrivateKeySerialize preKey.keyPair.privateKey)⟩

def ofStructure : PreKeyRecordStructure → Except SgErr SessionPreKey
  | ⟨some id, some publicKey, some privateKey⟩ => do
    let publicKey ← curveDecodePoint publicKey
    let privateKey ← curveDecodePrivatePoint privateKey
    return ⟨id, ⟨publicKey, privateKey⟩⟩
  | _ => .error .invalidKey

def deserialize (data : Bytes) : Except SgErr SessionPreKey :=
  (PreKeyRecordStructure.descriptor.unpack data).bind ofStructure

theorem deserialize_serialize (preKey : SessionPreKey) : deserialize preKey.serialize = .ok preKey := by
  have publicKey := fun data => @length_of_some _ data _ (ecPublicKeySerialize_length preKey.keyPair.publicKey)
  have privateKey := fun data => @length_of_some _ data 32 preKey.keyPair.privateKey.length
  have sized : PreKeyRecordStructure.descriptor.Sized
      ⟨some preKey.id, some (ecPublicKeySerialize preKey.keyPair.publicKey),
        some (ecPrivateKeySerialize preKey.keyPair.privateKey)⟩ 95 :=
    .of_small ((uint32_small (by decide) _ _).cons ((bytes_small (by decide) publicKey (by decide)).cons
      ((bytes_small (by decide) privateKey (by decide)).cons (.nil _)))) (by decide) (by decide)
  rw [deserialize, serialize, MessageDescriptor.unpack_pack sized.encodable, Except.bind, ofStructure,
    curveDecodePoint_serialize, curveDecodePrivatePoint_serialize]
  rfl

end SessionPreKey

structure SessionSignedPreKey where
  id : UInt32
  keyPair : EcKeyPair
  timestamp : UInt64
  signature : Bytes
  signed : signature ≠ []
deriving DecidableEq, Repr

namespace SessionSignedPreKey

def serialize (preKey : SessionSignedPreKey) : Bytes :=
  SignedPreKeyRecordStructure.descriptor.pack
    ⟨some preKey.id, some (ecPublicKeySerialize preKey.keyPair.publicKey),
      some (ecPrivateKeySerialize preKey.keyPair.privateKey), some preKey.signature, some preKey.timestamp⟩

def ofStructure : SignedPreKeyRecordStructure → Except SgErr SessionSignedPreKey
  | ⟨some id, some publicKey, some privateKey, some signature, some timestamp⟩ => do
    let publicKey ← curveDecodePoint publicKey
    let privateKey ← curveDecodePrivatePoint privateKey
    -- an assertion of `session_signed_pre_key_create`
    if missing : signature = [] then .error .abort else return ⟨id, ⟨publicKey, privateKey⟩, timestamp, signature, missing⟩
  | _ => .error .invalidKey

def deserialize (data : Bytes) : Except SgErr SessionSignedPreKey :=
  (SignedPreKeyRecordStructure.descriptor.unpack data).bind ofStructure

theorem deserialize_serialize {preKey : SessionSignedPreKey} (fits : preKey.signature.length < 2 ^ 32 - 5) :
    deserialize preKey.serialize = .ok preKey := by
  have publicKey := fun data => @length_of_some _ data _ (ecPublicKeySerialize_length preKey.keyPair.publicKey)
  have privateKey := fun data => @length_of_some _ data 32 preKey.keyPair.privateKey.length
  have signature := fun data => @length_of_some preKey.signature data _ rfl
  have sized : SignedPreKeyRecordStructure.descriptor.Sized
      ⟨some preKey.id, some (ecPublicKeySerialize preKey.keyPair.publicKey),
        some (ecPrivateKeySerialize preKey.keyPair.privateKey), some preKey.signature, some preKey.timestamp⟩
      (118 + preKey.signature.length) :=
    .of_small ((uint32_small (by decide) _ _).cons ((bytes_small (by decide) publicKey (by decide)).cons
      ((bytes_small (by decide) privateKey (by decide)).cons ((bytes_small (by decide) signature fits).cons
      ((fixed64_small (by decide) _ _).cons (.nil _)))))) (by decide) (by omega)
  rw [deserialize, serialize, MessageDescriptor.unpack_pack sized.encodable, Except.bind, ofStructure,
    curveDecodePoint_serialize, curveDecodePrivatePoint_serialize]
  exact dif_neg preKey.signed

end SessionSignedPreKey

/-- What the stores answer about one remote address. -/
structure Store where
  loadSession : Option Bytes
  containsSession : Bool
  isTrusted : Bytes → Bool
  identityKeyPair : Option KeyPair
  localRegistrationId : Option UInt32
  loadPreKey : UInt32 → Option Bytes
  loadSignedPreKey : UInt32 → Option Bytes

namespace Store

def run (call : StoreCall) (store : Store) : Store :=
  match call with
  | .storeSession record => { store with loadSession := some record.state, containsSession := true }
  | .saveIdentity identityKey => { store with isTrusted := fun identity => identity == identityKey.bytes }
  | .removePreKey preKeyId =>
    { store with loadPreKey := fun id => if (id.toNat : Int) = preKeyId then none else store.loadPreKey id }

def runAll (calls : List StoreCall) (store : Store) : Store := calls.foldl (fun store call => store.run call) store

def sessionLoadSession (store : Store) : Except SgErr SessionRecord :=
  match store.loadSession with
  | none => .ok (.create none)
  | some data => SessionRecord.deserialize data

def identityGetKeyPair (store : Store) : Except SgErr EcKeyPair :=
  match store.identityKeyPair with
  | none => .error .noData
  | some pair => do
    let publicKey ← curveDecodePoint pair.publicKey.bytes
    let privateKey ← curveDecodePrivatePoint pair.privateKey
    return ⟨publicKey, privateKey⟩

def identityGetLocalRegistrationId (store : Store) : Except SgErr UInt32 :=
  match store.localRegistrationId with
  | none => .error .noData
  | some registrationId => .ok registrationId

def preKeyLoadKey (store : Store) (preKeyId : UInt32) : Except SgErr SessionPreKey :=
  match store.loadPreKey preKeyId with
  | none => .error .invalidKeyId
  | some data => SessionPreKey.deserialize data

def signedPreKeyLoadKey (store : Store) (signedPreKeyId : UInt32) : Except SgErr SessionSignedPreKey :=
  match store.loadSignedPreKey signedPreKeyId with
  | none => .error .invalidKeyId
  | some data => SessionSignedPreKey.deserialize data

def identityIsTrustedIdentity (store : Store) (identityKey : EcPublicKey) : Bool :=
  store.isTrusted (ecPublicKeySerialize identityKey)

end Store

def sessionStoreSession (record : SessionRecord) : StoreCall := .storeSession ⟨record.serialize⟩

def identitySaveIdentity (identityKey : EcPublicKey) : StoreCall := .saveIdentity ⟨ecPublicKeySerialize identityKey⟩

def preKeyRemoveKey (preKeyId : UInt32) : StoreCall := .removePreKey preKeyId.toNat

def PRE_KEY_MEDIUM_MAX_VALUE : UInt32 := 0xFFFFFF

structure SessionPreKeyBundle where
  registrationId : UInt32
  preKeyId : UInt32
  preKeyPublic : Option EcPublicKey
  signedPreKeyId : UInt32
  signedPreKeyPublic : Option EcPublicKey
  signedPreKeySignature : Bytes
  identityKey : EcPublicKey
deriving DecidableEq, Repr

/-- The state that a session is built in: that of a fresh record, or a new one in front of it. -/
def SessionRecord.prepare (record : SessionRecord) : SessionRecord :=
  if record.isFresh then record else record.archiveCurrentState

namespace SessionBuilder

variable (provider : Provider)

/-- The record with the session that the message asks for, and the key that is used up by it. -/
def processPreKeySignalMessageV3 (store : Store) (record : SessionRecord) (message : PreKeySignalMessage) :
    Except SgErr (SessionRecord × Option UInt32) :=
  if record.hasSessionState message.version.toUInt32 message.baseKey then .ok (record, none)
  else do
    let ourSignedPreKey ← store.signedPreKeyLoadKey message.signedPreKeyId
    let ourIdentityKey ← store.identityGetKeyPair
    let ourOneTimePreKey ← message.preKeyId.mapM store.preKeyLoadKey
    let parameters : BobParameters := {
      ourIdentityKey := ourIdentityKey
      ourSignedPreKey := ourSignedPreKey.keyPair
      ourOneTimePreKey := ourOneTimePreKey.map SessionPreKey.keyPair
      ourRatchetKey := ourSignedPreKey.keyPair
      theirIdentityKey := message.identityKey
      theirBaseKey := message.baseKey }
    let localRegistrationId ← store.identityGetLocalRegistrationId
    let state := ratchetingSessionBobInitialize provider parameters record.prepare.state
    return (record.prepare.setState
        { state with
          localRegistrationId := localRegistrationId
          remoteRegistrationId := message.registrationId
          aliceBaseKey := some message.baseKey },
      message.preKeyId.filter fun preKeyId => preKeyId != PRE_KEY_MEDIUM_MAX_VALUE)

/-- If this is successful, the identity of the sender has been saved. -/
def processPreKeySignalMessage (store : Store) (record : SessionRecord) (message : PreKeySignalMessage) :
    Except SgErr (SessionRecord × Option UInt32) :=
  if store.identityIsTrustedIdentity message.identityKey then processPreKeySignalMessageV3 provider store record message
  else .error .untrustedIdentity

/-- The check of a bundle's signature. A signature without a byte is a null pointer, which is read. -/
def checkBundle (bundle : SessionPreKeyBundle) : Except SgErr EcPublicKey :=
  match bundle.signedPreKeyPublic with
  | none => .error .invalidKey
  | some signedPreKey =>
    if bundle.signedPreKeySignature = [] then .error .overrun
    else (curveVerifySignature provider bundle.identityKey (ecPublicKeySerialize signedPreKey)
      bundle.signedPreKeySignature).bind fun verified => if verified then .ok signedPreKey else .error .invalidKey

/-- `baseRandom` and `ratchetRandom` are what the two key pairs are generated from. -/
def processPreKeyBundle (store : Store) (bundle : SessionPreKeyBundle) (baseRandom ratchetRandom : EcPrivateKey) :
    Except SgErr (List StoreCall) :=
  if store.identityIsTrustedIdentity bundle.identityKey then do
    let signedPreKey ← checkBundle provider bundle
    let record ← store.sessionLoadSession
    let ourBaseKey := curveGenerateKeyPair provider baseRandom
    let ourIdentityKey ← store.identityGetKeyPair
    let parameters : AliceParameters := {
      ourIdentityKey := ourIdentityKey
      ourBaseKey := ourBaseKey
      theirIdentityKey := bundle.identityKey
      theirSignedPreKey := signedPreKey
      theirOneTimePreKey := bundle.preKeyPublic
      theirRatchetKey := signedPreKey }
    let localRegistrationId ← store.identityGetLocalRegistrationId
    let state := (ratchetingSessionAliceInitialize provider parameters ratchetRandom
      record.prepare.state).setUnacknowledgedPreKeyMessage (bundle.preKeyPublic.map fun _ => bundle.preKeyId)
      bundle.signedPreKeyId ourBaseKey.publicKey
    let record := record.prepare.setState
      { state with
        localRegistrationId := localRegistrationId
        remoteRegistrationId := bundle.registrationId
        aliceBaseKey := some ourBaseKey.publicKey }
    return [sessionStoreSession record, identitySaveIdentity bundle.identityKey]
  else .error .untrustedIdentity

end SessionBuilder

end PillarSignal.Libsignal
