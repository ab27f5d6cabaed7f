import PillarSignal.Libsignal.SessionBuilder

namespace PillarSignal.Libsignal

inductive CiphertextMessage where
  | signal (message : SignalMessage)
  | preKey (message : PreKeySignalMessage)
deriving DecidableEq, Repr

def CiphertextMessage.serialized : CiphertextMessage → Bytes
  | signal message => message.serialized
  | preKey message => message.serialized

namespace SessionCipher

variable (provider : Provider)

/-- Before version 3 the vector is the counter, with the highest byte first. -/
def counterIv (counter : UInt32) : Bytes :=
  [(counter >>> 24).toUInt8, (counter >>> 16).toUInt8, (counter >>> 8).toUInt8, counter.toUInt8] ++ List.replicate 12 0

def getCiphertext (version : UInt32) (messageKeys : MessageKeys) (plaintext : Bytes) : Bytes :=
  if version ≥ 3 then provider.encryptCBC messageKeys.cipherKey messageKeys.iv plaintext
  else provider.encryptCTR messageKeys.cipherKey (counterIv messageKeys.counter) plaintext

def getPlaintext (version : UInt32) (messageKeys : MessageKeys) (ciphertext : Bytes) : Except SgErr Bytes :=
  let iv := if version ≥ 3 then messageKeys.iv else counterIv messageKeys.counter
  match if version ≥ 3 then provider.decryptCBC messageKeys.cipherKey iv ciphertext
    else provider.decryptCTR messageKeys.cipherKey iv ciphertext with
  | some plaintext => .ok plaintext
  | none => .error (provider.decryptError messageKeys.cipherKey iv ciphertext)

def wrap (state : SessionState) (localIdentityKey : EcPublicKey) (message : SignalMessage) : Except SgErr CiphertextMessage :=
  match state.pendingPreKey with
  | none => .ok (.signal message)
  | some ⟨_, _, none⟩ => .error .unknown
  | some ⟨preKeyId, signedPreKeyId, some baseKey⟩ =>
    .ok (.preKey (.create state.sessionVersion.toUInt8 state.localRegistrationId preKeyId signedPreKeyId baseKey
      localIdentityKey message))

/-- The part of the encryption that is about the state. The version of the message is its lowest byte. -/
def encryptState (state : SessionState) (paddedMessage : Bytes) : Except SgErr (CiphertextMessage × SessionState) :=
  match state.getSenderChainKey, state.getSenderRatchetKey, state.localIdentityPublic, state.remoteIdentityPublic with
  | some chainKey, some senderEphemeral, some localIdentityKey, some remoteIdentityKey => do
    let messageKeys := chainKey.getMessageKeys provider
    let ciphertext := getCiphertext provider state.sessionVersion messageKeys paddedMessage
    let message := SignalMessage.create provider state.sessionVersion.toUInt8 messageKeys.macKey senderEphemeral
      chainKey.index state.previousCounter ciphertext localIdentityKey remoteIdentityKey
    let encryptedMessage ← wrap state localIdentityKey message
    let state ← state.setSenderChainKey (chainKey.createNext provider)
    return (encryptedMessage, state)
  | _, _, _, _ => .error .unknown

def encrypt (store : Store) (paddedMessage : Bytes) : Except SgErr (CiphertextMessage × List StoreCall) := do
  let record ← store.sessionLoadSession
  let (encryptedMessage, state) ← encryptState provider record.state paddedMessage
  return (encryptedMessage, [sessionStoreSession (record.setState state)])

def startChains (state : SessionState) (theirEphemeral : EcPublicKey) (random : EcPrivateKey) :
    Except SgErr (ChainKey × SessionState) :=
  match state.rootKey, state.getSenderRatchetKeyPair, state.getSenderChainKey with
  | some rootKey, some ourEphemeral, some previousSenderChainKey =>
    let (receiverRootKey, receiverChainKey) := rootKey.createChain provider theirEphemeral ourEphemeral.privateKey
    let ourNewEphemeral := curveGenerateKeyPair provider random
    let (senderRootKey, senderChainKey) := receiverRootKey.createChain provider theirEphemeral ourNewEphemeral.privateKey
    let index := previousSenderChainKey.index
    .ok (receiverChainKey,
      { (state.addReceiverChain theirEphemeral receiverChainKey).setSenderChain ourNewEphemeral senderChainKey with
        rootKey := some senderRootKey
        previousCounter := if index > 0 then index - 1 else index })
  | _, _, _ => .error .unknown

def getOrCreateChainKey (state : SessionState) (theirEphemeral : EcPublicKey) (random : EcPrivateKey) :
    Except SgErr (ChainKey × SessionState) :=
  match state.getReceiverChainKey theirEphemeral with
  | some chainKey => .ok (chainKey, state)
  | none => startChains provider state theirEphemeral random

/-- The loop that keeps the keys of the messages that are passed over. -/
def skipMessageKeys (theirEphemeral : EcPublicKey) : (rounds : Nat) → ChainKey → SessionState → ChainKey × SessionState
  | 0, chainKey, state => (chainKey, state)
  | rounds + 1, chainKey, state =>
    skipMessageKeys theirEphemeral rounds (chainKey.createNext provider)
      (state.setMessageKeys theirEphemeral (chainKey.getMessageKeys provider))

def getOrCreateMessageKeys (state : SessionState) (theirEphemeral : EcPublicKey) (chainKey : ChainKey) (counter : UInt32) :
    Except SgErr (MessageKeys × SessionState) :=
  if chainKey.index > counter then
    match state.removeMessageKeys theirEphemeral counter with
    | some found => .ok found
    | none => .error .duplicateMessage
  else if counter - chainKey.index > 2000 then .error .invalidMessage
  else
    let (chainKey, state) := skipMessageKeys provider theirEphemeral (counter - chainKey.index).toNat chainKey state
    (state.setReceiverChainKey theirEphemeral (chainKey.createNext provider)).map fun state =>
      (chainKey.getMessageKeys provider, state)

def openMessage (state : SessionState) (messageKeys : MessageKeys) (message : SignalMessage) : Except SgErr Bytes :=
  match state.remoteIdentityPublic, state.localIdentityPublic with
  | some remoteIdentityKey, some localIdentityKey =>
    if message.verifyMac provider remoteIdentityKey localIdentityKey messageKeys.macKey then
      getPlaintext provider message.messageVersion.toUInt32 messageKeys message.ciphertext
    else .error .invalidMessage
  | _, _ => .error .unknown

def decryptFromState (state : SessionState) (message : SignalMessage) (random : EcPrivateKey) :
    Except SgErr (Bytes × SessionState) :=
  if state.senderChain.isNone then .error .invalidMessage
  else if message.messageVersion.toUInt32 ≠ state.sessionVersion then .error .invalidMessage
  else do
    let (chainKey, state) ← getOrCreateChainKey provider state message.senderRatchetKey random
    let (messageKeys, state) ← getOrCreateMessageKeys provider state message.senderRatchetKey chainKey message.counter
    let plaintext ← openMessage provider state messageKeys message
    return (plaintext, state.clearUnacknowledgedPreKeyMessage)

/-- The loop over the previous states. Each attempt is made on a copy, with a key pair of its own. -/
def decryptFromPrevious (record : SessionRecord) (message : SignalMessage) (random : Nat → EcPrivateKey) :
    (index : Nat) → List SessionState → Except SgErr (Bytes × SessionRecord)
  | _, [] => .error .invalidMessage
  | index, state :: states =>
    match state.copy with
    | .error error => .error error
    | .ok stateCopy =>
      match decryptFromState provider stateCopy message (random (index + 1)) with
      | .ok (plaintext, stateCopy) => .ok (plaintext, (record.getPreviousStatesRemove index).promoteState stateCopy)
      | .error .invalidMessage => decryptFromPrevious record message random (index + 1) states
      | .error error => .error error

def decryptFromRecord (record : SessionRecord) (message : SignalMessage) (random : Nat → EcPrivateKey) :
    Except SgErr (Bytes × SessionRecord) :=
  match record.state.copy with
  | .error error => .error error
  | .ok stateCopy =>
    match decryptFromState provider stateCopy message (random 0) with
    | .ok (plaintext, stateCopy) => .ok (plaintext, record.setState stateCopy)
    | .error .invalidMessage => decryptFromPrevious provider record message random 0 record.previousStates
    | .error error => .error error

def decryptSignalMessage (store : Store) (message : SignalMessage) (random : Nat → EcPrivateKey) :
    Except SgErr (Bytes × List StoreCall) :=
  if store.containsSession then do
    let record ← store.sessionLoadSession
    let (plaintext, record) ← decryptFromRecord provider record message random
    return (plaintext, [sessionStoreSession record])
  else .error .noSession

/-- The calls are those that have been made, also when an error comes after them. -/
def decryptPreKeySignalMessage (store : Store) (message : PreKeySignalMessage) (random : Nat → EcPrivateKey) :
    Except SgErr Bytes × List StoreCall :=
  match store.sessionLoadSession.bind fun record =>
      SessionBuilder.processPreKeySignalMessage provider store record message with
  | .error error => (.error error, [])
  | .ok (record, unsignedPreKeyId) =>
    match decryptFromRecord provider record message.message random with
    | .error error => (.error error, [identitySaveIdentity message.identityKey])
    | .ok (plaintext, record) =>
      (.ok plaintext, [identitySaveIdentity message.identityKey, sessionStoreSession record] ++
        (unsignedPreKeyId.map preKeyRemoveKey).toList)

end SessionCipher

/-- What an app asks the library for, with the keys that are drawn on the way. Messages come as data. -/
inductive Request where
  | processPreKeyBundle (bundle : SessionPreKeyBundle) (baseRandom ratchetRandom : EcPrivateKey)
  | encrypt (paddedMessage : Bytes)
  | decryptSignalMessage (data : Bytes) (random : Nat → EcPrivateKey)
  | decryptPreKeySignalMessage (data : Bytes) (random : Nat → EcPrivateKey)

inductive Response where
  | processed
  | ciphertext (message : CiphertextMessage)
  | plaintext (data : Bytes)
deriving DecidableEq, Repr

def Request.perform (provider : Provider) (store : Store) : Request → Except SgErr Response × List StoreCall
  | processPreKeyBundle bundle baseRandom ratchetRandom =>
    match SessionBuilder.processPreKeyBundle provider store bundle baseRandom ratchetRandom with
    | .ok calls => (.ok .processed, calls)
    | .error error => (.error error, [])
  | encrypt paddedMessage =>
    match SessionCipher.encrypt provider store paddedMessage with
    | .ok (message, calls) => (.ok (.ciphertext message), calls)
    | .error error => (.error error, [])
  | decryptSignalMessage data random =>
    match (SignalMessage.deserialize data).bind fun message =>
        SessionCipher.decryptSignalMessage provider store message random with
    | .ok (plaintext, calls) => (.ok (.plaintext plaintext), calls)
    | .error error => (.error error, [])
  | decryptPreKeySignalMessage data random =>
    match PreKeySignalMessage.deserialize data with
    | .ok message =>
      let (result, calls) := SessionCipher.decryptPreKeySignalMessage provider store message random
      (result.map Response.plaintext, calls)
    | .error error => (.error error, [])

def Request.step (provider : Provider) (store : Store) (request : Request) : Store :=
  store.runAll (request.perform provider store).2

def Request.run (provider : Provider) (store : Store) (requests : List Request) : Store :=
  requests.foldl (Request.step provider) store

end PillarSignal.Libsignal
