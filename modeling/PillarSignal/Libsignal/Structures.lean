import PillarSignal.Libsignal.Descriptors

namespace PillarSignal.Libsignal

open Protobuf

structure ChainKeyStructure where
  index : Option UInt32
  key : Option Bytes
deriving DecidableEq, Repr

structure MessageKeyStructure where
  index : Option UInt32
  cipherKey : Option Bytes
  macKey : Option Bytes
  iv : Option Bytes
deriving DecidableEq, Repr

structure ChainStructure where
  senderRatchetKey : Option Bytes
  senderRatchetKeyPrivate : Option Bytes
  chainKey : Option ChainKeyStructure
  messageKeys : List MessageKeyStructure
deriving DecidableEq, Repr

structure PendingKeyExchangeStructure where
  sequence : Option UInt32
  localBaseKey : Option Bytes
  localBaseKeyPrivate : Option Bytes
  localRatchetKey : Option Bytes
  localRatchetKeyPrivate : Option Bytes
  localIdentityKey : Option Bytes
  localIdentityKeyPrivate : Option Bytes
deriving DecidableEq, Repr

structure PendingPreKeyStructure where
  preKeyId : Option UInt32
  baseKey : Option Bytes
  signedPreKeyId : Option UInt32
deriving DecidableEq, Repr

structure SessionStructure where
  sessionVersion : Option UInt32
  localIdentityPublic : Option Bytes
  remoteIdentityPublic : Option Bytes
  rootKey : Option Bytes
  previousCounter : Option UInt32
  senderChain : Option ChainStructure
  receiverChains : List ChainStructure
  pendingKeyExchange : Option PendingKeyExchangeStructure
  pendingPreKey : Option PendingPreKeyStructure
  remoteRegistrationId : Option UInt32
  localRegistrationId : Option UInt32
  needsRefresh : Option Bool
  aliceBaseKey : Option Bytes
deriving DecidableEq, Repr

structure RecordStructure where
  currentSession : Option SessionStructure
  previousSessions : List SessionStructure
deriving DecidableEq, Repr

structure PreKeyRecordStructure where
  id : Option UInt32
  publicKey : Option Bytes
  privateKey : Option Bytes
deriving DecidableEq, Repr

structure SignedPreKeyRecordStructure where
  id : Option UInt32
  publicKey : Option Bytes
  privateKey : Option Bytes
  signature : Option Bytes
  timestamp : Option UInt64
deriving DecidableEq, Repr

structure SignalMessageStructure where
  ratchetKey : Option Bytes
  counter : Option UInt32
  previousCounter : Option UInt32
  ciphertext : Option Bytes
deriving DecidableEq, Repr

structure PreKeySignalMessageStructure where
  preKeyId : Option UInt32
  baseKey : Option Bytes
  identityKey : Option Bytes
  message : Option Bytes
  registrationId : Option UInt32
  signedPreKeyId : Option UInt32
deriving DecidableEq, Repr

def ChainKeyStructure.descriptor : MessageDescriptor ChainKeyStructure where
  fields := [
    .uint32 1 { get := (·.index), set := fun value message => { message with index := value } },
    .bytes 2 { get := (·.key), set := fun value message => { message with key := value } }]
  init := ⟨none, none⟩
  distinct := by decide
  restores _ := ⟨rfl, rfl, rfl⟩

def MessageKeyStructure.descriptor : MessageDescriptor MessageKeyStructure where
  fields := [
    .uint32 1 { get := (·.index), set := fun value message => { message with index := value } },
    .bytes 2 { get := (·.cipherKey), set := fun value message => { message with cipherKey := value } },
    .bytes 3 { get := (·.macKey), set := fun value message => { message with macKey := value } },
    .bytes 4 { get := (·.iv), set := fun value message => { message with iv := value } }]
  init := ⟨none, none, none, none⟩
  distinct := by decide
  restores _ := ⟨rfl, rfl, rfl, rfl, rfl⟩

def ChainStructure.descriptor : MessageDescriptor ChainStructure where
  fields := [
    .bytes 1 { get := (·.senderRatchetKey), set := fun value message => { message with senderRatchetKey := value } },
    .bytes 2
      { get := (·.senderRatchetKeyPrivate), set := fun value message => { message with senderRatchetKeyPrivate := value } },
    .message 3 ChainKeyStructure.descriptor
      { get := (·.chainKey), set := fun value message => { message with chainKey := value } },
    .messages 4 MessageKeyStructure.descriptor
      { get := (·.messageKeys), set := fun value message => { message with messageKeys := value } }]
  init := ⟨none, none, none, []⟩
  distinct := by decide
  restores _ := ⟨rfl, rfl, rfl, rfl, rfl⟩

def PendingKeyExchangeStructure.descriptor : MessageDescriptor PendingKeyExchangeStructure where
  fields := [
    .uint32 1 { get := (·.sequence), set := fun value message => { message with sequence := value } },
    .bytes 2 { get := (·.localBaseKey), set := fun value message => { message with localBaseKey := value } },
    .bytes 3 { get := (·.localBaseKeyPrivate), set := fun value message => { message with localBaseKeyPrivate := value } },
    .bytes 4 { get := (·.localRatchetKey), set := fun value message => { message with localRatchetKey := value } },
    .bytes 5
      { get := (·.localRatchetKeyPrivate), set := fun value message => { message with localRatchetKeyPrivate := value } },
    .bytes 7 { get := (·.localIdentityKey), set := fun value message => { message with localIdentityKey := value } },
    .bytes 8
      { get := (·.localIdentityKeyPrivate), set := fun value message => { message with localIdentityKeyPrivate := value } }]
  init := ⟨none, none, none, none, none, none, none⟩
  distinct := by decide
  restores _ := ⟨rfl, rfl, rfl, rfl, rfl, rfl, rfl, rfl⟩

def PendingPreKeyStructure.descriptor : MessageDescriptor PendingPreKeyStructure where
  fields := [
    .uint32 1 { get := (·.preKeyId), set := fun value message => { message with preKeyId := value } },
    .bytes 2 { get := (·.baseKey), set := fun value message => { message with baseKey := value } },
    .int32 3 { get := (·.signedPreKeyId), set := fun value message => { message with signedPreKeyId := value } }]
  init := ⟨none, none, none⟩
  distinct := by decide
  restores _ := ⟨rfl, rfl, rfl, rfl⟩

def SessionStructure.descriptor : MessageDescriptor SessionStructure where
  fields := [
    .uint32 1 { get := (·.sessionVersion), set := fun value message => { message with sessionVersion := value } },
    .bytes 2 { get := (·.localIdentityPublic), set := fun value message => { message with localIdentityPublic := value } },
    .bytes 3 { get := (·.remoteIdentityPublic), set := fun value message => { message with remoteIdentityPublic := value } },
    .bytes 4 { get := (·.rootKey), set := fun value message => { message with rootKey := value } },
    .uint32 5 { get := (·.previousCounter), set := fun value message => { message with previousCounter := value } },
    .message 6 ChainStructure.descriptor
      { get := (·.senderChain), set := fun value message => { message with senderChain := value } },
    .messages 7 ChainStructure.descriptor
      { get := (·.receiverChains), set := fun value message => { message with receiverChains := value } },
    .message 8 PendingKeyExchangeStructure.descriptor
      { get := (·.pendingKeyExchange), set := fun value message => { message with pendingKeyExchange := value } },
    .message 9 PendingPreKeyStructure.descriptor
      { get := (·.pendingPreKey), set := fun value message => { message with pendingPreKey := value } },
    .uint32 10
      { get := (·.remoteRegistrationId), set := fun value message => { message with remoteRegistrationId := value } },
    .uint32 11 { get := (·.localRegistrationId), set := fun value message => { message with localRegistrationId := value } },
    .bool 12 { get := (·.needsRefresh), set := fun value message => { message with needsRefresh := value } },
    .bytes 13 { get := (·.aliceBaseKey), set := fun value message => { message with aliceBaseKey := value } }]
  init := ⟨none, none, none, none, none, none, [], none, none, none, none, none, none⟩
  distinct := by decide
  restores message := by
    simp only [Restores, FieldDescriptor.uint32, FieldDescriptor.bytes, FieldDescriptor.bool, FieldDescriptor.optional,
      FieldDescriptor.message, FieldDescriptor.messages, and_self]

def RecordStructure.descriptor : MessageDescriptor RecordStructure where
  fields := [
    .message 1 SessionStructure.descriptor
      { get := (·.currentSession), set := fun value message => { message with currentSession := value } },
    .messages 2 SessionStructure.descriptor
      { get := (·.previousSessions), set := fun value message => { message with previousSessions := value } }]
  init := ⟨none, []⟩
  distinct := by decide
  restores _ := ⟨rfl, rfl, rfl⟩

def PreKeyRecordStructure.descriptor : MessageDescriptor PreKeyRecordStructure where
  fields := [
    .uint32 1 { get := (·.id), set := fun value message => { message with id := value } },
    .bytes 2 { get := (·.publicKey), set := fun value message => { message with publicKey := value } },
    .bytes 3 { get := (·.privateKey), set := fun value message => { message with privateKey := value } }]
  init := ⟨none, none, none⟩
  distinct := by decide
  restores _ := ⟨rfl, rfl, rfl, rfl⟩

def SignedPreKeyRecordStructure.descriptor : MessageDescriptor SignedPreKeyRecordStructure where
  fields := [
    .uint32 1 { get := (·.id), set := fun value message => { message with id := value } },
    .bytes 2 { get := (·.publicKey), set := fun value message => { message with publicKey := value } },
    .bytes 3 { get := (·.privateKey), set := fun value message => { message with privateKey := value } },
    .bytes 4 { get := (·.signature), set := fun value message => { message with signature := value } },
    .fixed64 5 { get := (·.timestamp), set := fun value message => { message with timestamp := value } }]
  init := ⟨none, none, none, none, none⟩
  distinct := by decide
  restores _ := ⟨rfl, rfl, rfl, rfl, rfl, rfl⟩

def SignalMessageStructure.descriptor : MessageDescriptor SignalMessageStructure where
  fields := [
    .bytes 1 { get := (·.ratchetKey), set := fun value message => { message with ratchetKey := value } },
    .uint32 2 { get := (·.counter), set := fun value message => { message with counter := value } },
    .uint32 3 { get := (·.previousCounter), set := fun value message => { message with previousCounter := value } },
    .bytes 4 { get := (·.ciphertext), set := fun value message => { message with ciphertext := value } }]
  init := ⟨none, none, none, none⟩
  distinct := by decide
  restores _ := ⟨rfl, rfl, rfl, rfl, rfl⟩

def PreKeySignalMessageStructure.descriptor : MessageDescriptor PreKeySignalMessageStructure where
  fields := [
    .uint32 1 { get := (·.preKeyId), set := fun value message => { message with preKeyId := value } },
    .bytes 2 { get := (·.baseKey), set := fun value message => { message with baseKey := value } },
    .bytes 3 { get := (·.identityKey), set := fun value message => { message with identityKey := value } },
    .bytes 4 { get := (·.message), set := fun value message => { message with message := value } },
    .uint32 5 { get := (·.registrationId), set := fun value message => { message with registrationId := value } },
    .uint32 6 { get := (·.signedPreKeyId), set := fun value message => { message with signedPreKeyId := value } }]
  init := ⟨none, none, none, none, none, none⟩
  distinct := by decide
  restores _ := ⟨rfl, rfl, rfl, rfl, rfl, rfl, rfl⟩

end PillarSignal.Libsignal
