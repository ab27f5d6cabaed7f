import PillarSignal.Delivery.Side
import PillarSignal.Libsignal.Ratchet

namespace PillarSignal.Libsignal

open Delivery

def MAX_MESSAGE_KEYS : Nat := 2000

def MAX_RECEIVER_CHAINS : Nat := 5

structure SenderChain where
  senderRatchetKeyPair : Option EcKeyPair
  chainKey : Option ChainKey
deriving DecidableEq, Repr

structure ReceiverChain where
  senderRatchetKey : Option EcPublicKey
  chainKey : Option ChainKey
  messageKeys : List MessageKeys
deriving DecidableEq, Repr

structure PendingKeyExchange where
  sequence : UInt32
  localBaseKey : Option EcKeyPair
  localRatchetKey : Option EcKeyPair
  localIdentityKey : Option EcKeyPair
deriving DecidableEq, Repr

structure PendingPreKey where
  preKeyId : Option UInt32
  signedPreKeyId : UInt32
  baseKey : Option EcPublicKey
deriving DecidableEq, Repr

structure SessionState where
  sessionVersion : UInt32
  localIdentityPublic : Option EcPublicKey
  remoteIdentityPublic : Option EcPublicKey
  rootKey : Option RootKey
  previousCounter : UInt32
  senderChain : Option SenderChain
  receiverChains : List ReceiverChain
  pendingKeyExchange : Option PendingKeyExchange
  pendingPreKey : Option PendingPreKey
  remoteRegistrationId : UInt32
  localRegistrationId : UInt32
  needsRefresh : Bool
  aliceBaseKey : Option EcPublicKey
deriving DecidableEq, Repr

namespace ReceiverChain

def isFor (senderEphemeral : EcPublicKey) (chain : ReceiverChain) : Bool := chain.senderRatchetKey == some senderEphemeral

/-- Once there are more than `MAX_MESSAGE_KEYS`, the oldest are thrown away. -/
def appendMessageKeys (messageKeys : MessageKeys) (chain : ReceiverChain) : ReceiverChain :=
  { chain with messageKeys := push MAX_MESSAGE_KEYS chain.messageKeys messageKeys }

def deleteMessageKeys (counter : UInt32) (chain : ReceiverChain) : ReceiverChain :=
  { chain with messageKeys := chain.messageKeys.eraseP fun messageKeys => messageKeys.counter == counter }

end ReceiverChain

namespace SessionState

def create : SessionState where
  sessionVersion := 2
  localIdentityPublic := none
  remoteIdentityPublic := none
  rootKey := none
  previousCounter := 0
  senderChain := none
  receiverChains := []
  pendingKeyExchange := none
  pendingPreKey := none
  remoteRegistrationId := 0
  localRegistrationId := 0
  needsRefresh := false
  aliceBaseKey := none

def setSenderChain (senderRatchetKeyPair : EcKeyPair) (chainKey : ChainKey) (state : SessionState) : SessionState :=
  { state with senderChain := some ⟨some senderRatchetKeyPair, some chainKey⟩ }

def getSenderRatchetKeyPair (state : SessionState) : Option EcKeyPair := state.senderChain.bind SenderChain.senderRatchetKeyPair

def getSenderRatchetKey (state : SessionState) : Option EcPublicKey := state.getSenderRatchetKeyPair.map EcKeyPair.publicKey

def getSenderChainKey (state : SessionState) : Option ChainKey := state.senderChain.bind SenderChain.chainKey

def setSenderChainKey (chainKey : ChainKey) (state : SessionState) : Except SgErr SessionState :=
  match state.senderChain with
  | some chain => .ok { state with senderChain := some { chain with chainKey := some chainKey } }
  | none => .error .unknown

def findReceiverChain (state : SessionState) (senderEphemeral : EcPublicKey) : Option ReceiverChain :=
  state.receiverChains.find? (ReceiverChain.isFor senderEphemeral)

def getReceiverChainKey (state : SessionState) (senderEphemeral : EcPublicKey) : Option ChainKey :=
  (state.findReceiverChain senderEphemeral).bind ReceiverChain.chainKey

/-- The changes of a chain are made on the first one that is found. -/
def changeReceiverChain (senderEphemeral : EcPublicKey) (change : ReceiverChain → ReceiverChain) (state : SessionState) :
    SessionState :=
  { state with receiverChains := modifyFirst (ReceiverChain.isFor senderEphemeral) change state.receiverChains }

def removeMessageKeys (senderEphemeral : EcPublicKey) (counter : UInt32) (state : SessionState) :
    Option (MessageKeys × SessionState) :=
  ((state.findReceiverChain senderEphemeral).bind fun chain =>
    chain.messageKeys.find? fun messageKeys => messageKeys.counter == counter).map fun messageKeys =>
      (messageKeys, state.changeReceiverChain senderEphemeral (ReceiverChain.deleteMessageKeys counter))

def setMessageKeys (senderEphemeral : EcPublicKey) (messageKeys : MessageKeys) (state : SessionState) : SessionState :=
  state.changeReceiverChain senderEphemeral (ReceiverChain.appendMessageKeys messageKeys)

def addReceiverChain (senderRatchetKey : EcPublicKey) (chainKey : ChainKey) (state : SessionState) : SessionState :=
  { state with
    receiverChains := push MAX_RECEIVER_CHAINS state.receiverChains ⟨some senderRatchetKey, some chainKey, []⟩ }

def setReceiverChainKey (senderEphemeral : EcPublicKey) (chainKey : ChainKey) (state : SessionState) :
    Except SgErr SessionState :=
  match state.findReceiverChain senderEphemeral with
  | some _ => .ok (state.changeReceiverChain senderEphemeral fun chain => { chain with chainKey := some chainKey })
  | none => .error .unknown

def setUnacknowledgedPreKeyMessage (preKeyId : Option UInt32) (signedPreKeyId : UInt32) (baseKey : EcPublicKey)
    (state : SessionState) : SessionState :=
  { state with pendingPreKey := some ⟨preKeyId, signedPreKeyId, some baseKey⟩ }

def clearUnacknowledgedPreKeyMessage (state : SessionState) : SessionState := { state with pendingPreKey := none }

end SessionState

variable (provider : Provider)

def ratchetingSessionAliceInitialize (parameters : AliceParameters) (random : EcPrivateKey) (state : SessionState) :
    SessionState :=
  let sendingRatchetKey := curveGenerateKeyPair provider random
  let (derivedRoot, derivedChain) := ratchetingSessionCalculateDerivedKeys provider (parameters.secret provider)
  let (sendingChainRoot, sendingChainKey) :=
    derivedRoot.createChain provider parameters.theirRatchetKey sendingRatchetKey.privateKey
  { (state.addReceiverChain parameters.theirRatchetKey derivedChain).setSenderChain sendingRatchetKey sendingChainKey with
    sessionVersion := CIPHERTEXT_CURRENT_VERSION.toUInt32
    remoteIdentityPublic := some parameters.theirIdentityKey
    localIdentityPublic := some parameters.ourIdentityKey.publicKey
    rootKey := some sendingChainRoot }

def ratchetingSessionBobInitialize (parameters : BobParameters) (state : SessionState) : SessionState :=
  let (derivedRoot, derivedChain) := ratchetingSessionCalculateDerivedKeys provider (parameters.secret provider)
  { state.setSenderChain parameters.ourRatchetKey derivedChain with
    sessionVersion := CIPHERTEXT_CURRENT_VERSION.toUInt32
    remoteIdentityPublic := some parameters.theirIdentityKey
    localIdentityPublic := some parameters.ourIdentityKey.publicKey
    rootKey := some derivedRoot }

end PillarSignal.Libsignal
