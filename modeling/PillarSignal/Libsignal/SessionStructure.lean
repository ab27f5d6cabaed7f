import PillarSignal.Libsignal.SessionState
import PillarSignal.Libsignal.Structures

namespace PillarSignal.Libsignal

open Protobuf

theorem mapM_decode_map {α β : Type} {encode : α → β} {decode : β → Except SgErr α} {values : List α}
    (back : ∀ value ∈ values, decode (encode value) = .ok value) : (values.map encode).mapM decode = .ok values := by
  induction values with
  | nil => rfl
  | cons value values ih =>
    have rest := ih fun other member => back other (List.mem_cons_of_mem _ member)
    rw [List.map_cons, List.mapM_cons, back value List.mem_cons_self, rest]
    rfl

/-- A key pair is taken only if both of its halves are there. -/
def decodeKeyPair : (publicKey privateKey : Option Bytes) → Except SgErr (Option EcKeyPair)
  | some publicKey, some privateKey => do
    let publicKey ← curveDecodePoint publicKey
    let privateKey ← curveDecodePrivatePoint privateKey
    return some ⟨publicKey, privateKey⟩
  | _, _ => return none

theorem decodeKeyPair_serialize (pair : Option EcKeyPair) :
    decodeKeyPair (pair.map fun pair => ecPublicKeySerialize pair.publicKey)
      (pair.map fun pair => ecPrivateKeySerialize pair.privateKey) = .ok pair := by
  cases pair with
  | none => rfl
  | some pair =>
    rw [Option.map_some, Option.map_some, decodeKeyPair, curveDecodePoint_serialize, curveDecodePrivatePoint_serialize]
    rfl

theorem mapM_curveDecodePoint (key : Option EcPublicKey) :
    (key.map ecPublicKeySerialize).mapM curveDecodePoint = .ok key := by
  cases key with
  | none => rfl
  | some key =>
    rw [Option.map_some, Option.mapM_some, curveDecodePoint_serialize]
    rfl

/-- A field that is missing, or not of the length of the buffer, leaves the buffer at zero. -/
def copyExact (length : Nat) (given : Option Bytes) : Bytes :=
  match given with
  | some data => if data.length = length then data else List.replicate length 0
  | none => List.replicate length 0

theorem copyExact_length (length : Nat) (given : Option Bytes) : (copyExact length given).length = length := by
  unfold copyExact
  split
  · split
    · assumption
    · exact List.length_replicate ..
  · exact List.length_replicate ..

theorem copyExact_some {length : Nat} {data : Bytes} (whole : data.length = length) : copyExact length (some data) = data :=
  if_pos whole

namespace ChainKey

/-- An empty key is a null pointer. -/
def create (kdf : Hkdf) (key : Bytes) (index : UInt32) : Except SgErr ChainKey :=
  if key = [] then .error .inval else .ok ⟨kdf, key, index⟩

def serializePrepare (chainKey : ChainKey) : ChainKeyStructure := ⟨some chainKey.index, some chainKey.key⟩

def deserializeProtobuf (version : UInt32) : Option ChainKeyStructure → Except SgErr (Option ChainKey)
  | some ⟨some index, some key⟩ => do
    let kdf ← hkdfCreate version
    let chainKey ← create kdf key index
    return some chainKey
  | _ => return none

structure WellFormed (version : UInt32) (chainKey : ChainKey) : Prop where
  derived : hkdfCreate version = .ok chainKey.kdf
  length : chainKey.key.length = 32

theorem deserialize_serialize {version : UInt32} {chainKey : Option ChainKey}
    (wellFormed : ∀ key ∈ chainKey, key.WellFormed version) :
    deserializeProtobuf version (chainKey.map serializePrepare) = .ok chainKey := by
  cases chainKey with
  | none => rfl
  | some key =>
    obtain ⟨derived, length⟩ := wellFormed key rfl
    have some_byte : key.key ≠ [] := by
      intro empty
      simp [empty] at length
    rw [Option.map_some, serializePrepare, deserializeProtobuf, derived]
    change (create key.kdf key.key key.index).bind _ = _
    rw [create, if_neg some_byte]
    rfl

end ChainKey

namespace RootKey

def create (kdf : Hkdf) (key : Bytes) : Except SgErr RootKey := if key = [] then .error .inval else .ok ⟨kdf, key⟩

def deserializeProtobuf (version : UInt32) (key : Bytes) : Except SgErr RootKey := do
  let kdf ← hkdfCreate version
  create kdf key

structure WellFormed (version : UInt32) (rootKey : RootKey) : Prop where
  derived : hkdfCreate version = .ok rootKey.kdf
  length : rootKey.key.length = 32

theorem deserialize_serialize {version : UInt32} {rootKey : Option RootKey}
    (wellFormed : ∀ key ∈ rootKey, key.WellFormed version) :
    (rootKey.map RootKey.key).mapM (deserializeProtobuf version) = .ok rootKey := by
  cases rootKey with
  | none => rfl
  | some key =>
    obtain ⟨derived, length⟩ := wellFormed key rfl
    have some_byte : key.key ≠ [] := by
      intro empty
      simp [empty] at length
    rw [Option.map_some, Option.mapM_some, deserializeProtobuf, derived]
    change ((create key.kdf key.key).map some) = _
    rw [create, if_neg some_byte]
    rfl

end RootKey

namespace MessageKeys

def serializePrepare (messageKeys : MessageKeys) : MessageKeyStructure :=
  ⟨some messageKeys.counter, some messageKeys.cipherKey, some messageKeys.macKey, some messageKeys.iv⟩

def deserializeProtobuf (keyStructure : MessageKeyStructure) : MessageKeys where
  cipherKey := copyExact 32 keyStructure.cipherKey
  macKey := copyExact 32 keyStructure.macKey
  iv := copyExact 16 keyStructure.iv
  counter := keyStructure.index.getD 0
  cipherKey_length := copyExact_length ..
  macKey_length := copyExact_length ..
  iv_length := copyExact_length ..

theorem deserialize_serialize (messageKeys : MessageKeys) : deserializeProtobuf messageKeys.serializePrepare = messageKeys := by
  simp only [deserializeProtobuf, serializePrepare, copyExact_some messageKeys.cipherKey_length,
    copyExact_some messageKeys.macKey_length, copyExact_some messageKeys.iv_length, Option.getD_some]

end MessageKeys

namespace SenderChain

def serializePrepare (chain : SenderChain) : ChainStructure where
  senderRatchetKey := chain.senderRatchetKeyPair.map fun pair => ecPublicKeySerialize pair.publicKey
  senderRatchetKeyPrivate := chain.senderRatchetKeyPair.map fun pair => ecPrivateKeySerialize pair.privateKey
  chainKey := chain.chainKey.map ChainKey.serializePrepare
  messageKeys := []

def deserializeProtobuf (version : UInt32) (chainStructure : ChainStructure) : Except SgErr SenderChain := do
  let senderRatchetKeyPair ← decodeKeyPair chainStructure.senderRatchetKey chainStructure.senderRatchetKeyPrivate
  let chainKey ← ChainKey.deserializeProtobuf version chainStructure.chainKey
  return ⟨senderRatchetKeyPair, chainKey⟩

theorem deserialize_serialize {version : UInt32} {chain : SenderChain}
    (wellFormed : ∀ key ∈ chain.chainKey, key.WellFormed version) :
    deserializeProtobuf version chain.serializePrepare = .ok chain := by
  rw [deserializeProtobuf, serializePrepare]
  dsimp only
  rw [decodeKeyPair_serialize, ChainKey.deserialize_serialize wellFormed]
  rfl

end SenderChain

namespace ReceiverChain

def serializePrepare (chain : ReceiverChain) : ChainStructure where
  senderRatchetKey := chain.senderRatchetKey.map ecPublicKeySerialize
  senderRatchetKeyPrivate := none
  chainKey := chain.chainKey.map ChainKey.serializePrepare
  messageKeys := chain.messageKeys.map MessageKeys.serializePrepare

def deserializeProtobuf (version : UInt32) (chainStructure : ChainStructure) : Except SgErr ReceiverChain := do
  let senderRatchetKey ← chainStructure.senderRatchetKey.mapM curveDecodePoint
  let chainKey ← ChainKey.deserializeProtobuf version chainStructure.chainKey
  return ⟨senderRatchetKey, chainKey, chainStructure.messageKeys.map MessageKeys.deserializeProtobuf⟩

structure WellFormed (version : UInt32) (chain : ReceiverChain) : Prop where
  chainKey : ∀ key ∈ chain.chainKey, key.WellFormed version
  messageKeys : chain.messageKeys.length ≤ MAX_MESSAGE_KEYS

theorem deserialize_serialize {version : UInt32} {chain : ReceiverChain} (wellFormed : chain.WellFormed version) :
    deserializeProtobuf version chain.serializePrepare = .ok chain := by
  have keys : (chain.messageKeys.map MessageKeys.serializePrepare).map MessageKeys.deserializeProtobuf = chain.messageKeys := by
    rw [List.map_map]
    exact (List.map_congr_left fun keys _ => MessageKeys.deserialize_serialize keys).trans (List.map_id _)
  rw [deserializeProtobuf, serializePrepare]
  dsimp only
  rw [mapM_curveDecodePoint, ChainKey.deserialize_serialize wellFormed.chainKey, keys]
  rfl

end ReceiverChain

namespace PendingKeyExchange

def serializePrepare (exchange : PendingKeyExchange) : PendingKeyExchangeStructure where
  sequence := some exchange.sequence
  localBaseKey := exchange.localBaseKey.map fun pair => ecPublicKeySerialize pair.publicKey
  localBaseKeyPrivate := exchange.localBaseKey.map fun pair => ecPrivateKeySerialize pair.privateKey
  localRatchetKey := exchange.localRatchetKey.map fun pair => ecPublicKeySerialize pair.publicKey
  localRatchetKeyPrivate := exchange.localRatchetKey.map fun pair => ecPrivateKeySerialize pair.privateKey
  localIdentityKey := exchange.localIdentityKey.map fun pair => ecPublicKeySerialize pair.publicKey
  localIdentityKeyPrivate := exchange.localIdentityKey.map fun pair => ecPrivateKeySerialize pair.privateKey

def deserializeProtobuf (exchangeStructure : PendingKeyExchangeStructure) : Except SgErr PendingKeyExchange := do
  let localBaseKey ← decodeKeyPair exchangeStructure.localBaseKey exchangeStructure.localBaseKeyPrivate
  let localRatchetKey ← decodeKeyPair exchangeStructure.localRatchetKey exchangeStructure.localRatchetKeyPrivate
  let localIdentityKey ← decodeKeyPair exchangeStructure.localIdentityKey exchangeStructure.localIdentityKeyPrivate
  return ⟨exchangeStructure.sequence.getD 0, localBaseKey, localRatchetKey, localIdentityKey⟩

theorem deserialize_serialize (exchange : PendingKeyExchange) :
    deserializeProtobuf exchange.serializePrepare = .ok exchange := by
  rw [deserializeProtobuf, serializePrepare]
  dsimp only
  rw [decodeKeyPair_serialize, decodeKeyPair_serialize, decodeKeyPair_serialize]
  rfl

end PendingKeyExchange

namespace PendingPreKey

def serializePrepare (preKey : PendingPreKey) : PendingPreKeyStructure :=
  ⟨preKey.preKeyId, preKey.baseKey.map ecPublicKeySerialize, some preKey.signedPreKeyId⟩

def deserializeProtobuf (preKeyStructure : PendingPreKeyStructure) : Except SgErr PendingPreKey := do
  let baseKey ← preKeyStructure.baseKey.mapM curveDecodePoint
  return ⟨preKeyStructure.preKeyId, preKeyStructure.signedPreKeyId.getD 0, baseKey⟩

theorem deserialize_serialize (preKey : PendingPreKey) : deserializeProtobuf preKey.serializePrepare = .ok preKey := by
  rw [deserializeProtobuf, serializePrepare]
  dsimp only
  rw [mapM_curveDecodePoint]
  rfl

end PendingPreKey

namespace SessionState

def serializePrepare (state : SessionState) : SessionStructure where
  sessionVersion := some state.sessionVersion
  localIdentityPublic := state.localIdentityPublic.map ecPublicKeySerialize
  remoteIdentityPublic := state.remoteIdentityPublic.map ecPublicKeySerialize
  rootKey := state.rootKey.map RootKey.key
  previousCounter := some state.previousCounter
  senderChain := state.senderChain.map SenderChain.serializePrepare
  receiverChains := state.receiverChains.map ReceiverChain.serializePrepare
  pendingKeyExchange := state.pendingKeyExchange.map PendingKeyExchange.serializePrepare
  pendingPreKey := state.pendingPreKey.map PendingPreKey.serializePrepare
  remoteRegistrationId := some state.remoteRegistrationId
  localRegistrationId := some state.localRegistrationId
  needsRefresh := some state.needsRefresh
  aliceBaseKey := state.aliceBaseKey.map ecPublicKeySerialize

/-- The result for the sender chain is not looked at: one that cannot be read is there, and empty. -/
def readSenderChain (version : UInt32) (chainStructure : ChainStructure) : SenderChain :=
  match SenderChain.deserializeProtobuf version chainStructure with
  | .ok chain => chain
  | .error _ => ⟨none, none⟩

def deserializeProtobuf (sessionStructure : SessionStructure) : Except SgErr SessionState := do
  let version := sessionStructure.sessionVersion.getD create.sessionVersion
  let localIdentityPublic ← sessionStructure.localIdentityPublic.mapM curveDecodePoint
  let remoteIdentityPublic ← sessionStructure.remoteIdentityPublic.mapM curveDecodePoint
  let rootKey ← sessionStructure.rootKey.mapM (RootKey.deserializeProtobuf version)
  let receiverChains ← sessionStructure.receiverChains.mapM (ReceiverChain.deserializeProtobuf version)
  let pendingKeyExchange ← sessionStructure.pendingKeyExchange.mapM PendingKeyExchange.deserializeProtobuf
  let pendingPreKey ← sessionStructure.pendingPreKey.mapM PendingPreKey.deserializeProtobuf
  let aliceBaseKey ← sessionStructure.aliceBaseKey.mapM curveDecodePoint
  return {
    sessionVersion := version
    localIdentityPublic := localIdentityPublic
    remoteIdentityPublic := remoteIdentityPublic
    rootKey := rootKey
    previousCounter := sessionStructure.previousCounter.getD 0
    senderChain := sessionStructure.senderChain.map (readSenderChain version)
    receiverChains := receiverChains
    pendingKeyExchange := pendingKeyExchange
    pendingPreKey := pendingPreKey
    remoteRegistrationId := sessionStructure.remoteRegistrationId.getD 0
    localRegistrationId := sessionStructure.localRegistrationId.getD 0
    needsRefresh := sessionStructure.needsRefresh.getD false
    aliceBaseKey := aliceBaseKey }

def serialize (state : SessionState) : Bytes := SessionStructure.descriptor.pack state.serializePrepare

def deserialize (data : Bytes) : Except SgErr SessionState := do
  let sessionStructure ← SessionStructure.descriptor.unpack data
  deserializeProtobuf sessionStructure

/-- A copy is what the serialized state is read as. -/
def copy (otherState : SessionState) : Except SgErr SessionState := deserialize otherState.serialize

/-- Every key is derived as the session's version asks for, and the lists keep to their limits. -/
structure WellFormed (state : SessionState) : Prop where
  rootKey : ∀ key ∈ state.rootKey, key.WellFormed state.sessionVersion
  senderChain : ∀ key ∈ state.getSenderChainKey, key.WellFormed state.sessionVersion
  receiverChains : ∀ chain ∈ state.receiverChains, chain.WellFormed state.sessionVersion
  few : state.receiverChains.length ≤ MAX_RECEIVER_CHAINS

theorem deserializeProtobuf_serializePrepare {state : SessionState} (wellFormed : state.WellFormed) :
    deserializeProtobuf state.serializePrepare = .ok state := by
  have sender : (state.senderChain.map SenderChain.serializePrepare).map (readSenderChain state.sessionVersion) =
      state.senderChain := by
    cases chain : state.senderChain with
    | none => rfl
    | some given =>
      have keys : ∀ key ∈ given.chainKey, key.WellFormed state.sessionVersion := by
        intro key there
        exact wellFormed.senderChain key (by rw [getSenderChainKey, chain]; exact there)
      rw [Option.map_some, Option.map_some, readSenderChain, SenderChain.deserialize_serialize keys]
  have exchange : (state.pendingKeyExchange.map PendingKeyExchange.serializePrepare).mapM
      PendingKeyExchange.deserializeProtobuf = .ok state.pendingKeyExchange := by
    cases state.pendingKeyExchange with
    | none => rfl
    | some given =>
      rw [Option.map_some, Option.mapM_some, PendingKeyExchange.deserialize_serialize]
      rfl
  have preKey : (state.pendingPreKey.map PendingPreKey.serializePrepare).mapM PendingPreKey.deserializeProtobuf =
      .ok state.pendingPreKey := by
    cases state.pendingPreKey with
    | none => rfl
    | some given =>
      rw [Option.map_some, Option.mapM_some, PendingPreKey.deserialize_serialize]
      rfl
  rw [deserializeProtobuf, serializePrepare]
  dsimp only
  rw [Option.getD_some, mapM_curveDecodePoint, mapM_curveDecodePoint, RootKey.deserialize_serialize wellFormed.rootKey,
    mapM_decode_map fun chain member => ReceiverChain.deserialize_serialize (wellFormed.receiverChains chain member),
    exchange, preKey, mapM_curveDecodePoint, sender]
  rfl

end SessionState

open FieldDescriptor

theorem length_of_some {value data : Bytes} {size : Nat} (length : value.length = size) (there : some value = some data) :
    data.length ≤ size := by
  rw [← Option.some.inj there, length]

theorem length_of_map {α : Type} {write : α → Bytes} {size : Nat} (same : ∀ value, (write value).length = size)
    {given : Option α} {data : Bytes} (there : given.map write = some data) : data.length ≤ size := by
  obtain ⟨value, -, rfl⟩ := Option.map_eq_some_iff.mp there
  exact Nat.le_of_eq (same value)

theorem MessageKeys.sized (messageKeys : MessageKeys) :
    MessageKeyStructure.descriptor.Sized messageKeys.serializePrepare 120 := by
  have cipherKey := fun data => @length_of_some _ data _ messageKeys.cipherKey_length
  have macKey := fun data => @length_of_some _ data _ messageKeys.macKey_length
  have iv := fun data => @length_of_some _ data _ messageKeys.iv_length
  exact .of_small ((uint32_small (by decide) _ _).cons ((bytes_small (by decide) cipherKey (by decide)).cons
    ((bytes_small (by decide) macKey (by decide)).cons ((bytes_small (by decide) iv (by decide)).cons (.nil _)))))
    (by decide) (by decide)

theorem ChainKey.sized {version : UInt32} {chainKey : ChainKey} (wellFormed : chainKey.WellFormed version) :
    ChainKeyStructure.descriptor.Sized chainKey.serializePrepare 52 :=
  .of_small ((uint32_small (by decide) _ _).cons ((bytes_small (by decide)
    (fun _ => length_of_some wellFormed.length) (by decide)).cons (.nil _))) (by decide) (by decide)

theorem ChainKey.sized_of_map {version : UInt32} {chainKey : Option ChainKey}
    (wellFormed : ∀ key ∈ chainKey, key.WellFormed version) (value : ChainKeyStructure)
    (there : chainKey.map serializePrepare = some value) : ChainKeyStructure.descriptor.Sized value 52 := by
  obtain ⟨key, given, rfl⟩ := Option.map_eq_some_iff.mp there
  exact ChainKey.sized (wellFormed key given)

theorem chainStructure_sized {version : UInt32} {chain : ChainStructure} {chainKey : Option ChainKey}
    {messageKeys : List MessageKeys} (publicKey : ∀ data, chain.senderRatchetKey = some data → data.length ≤ 33)
    (privateKey : ∀ data, chain.senderRatchetKeyPrivate = some data → data.length ≤ 32)
    (ofKey : chain.chainKey = chainKey.map ChainKey.serializePrepare)
    (ofKeys : chain.messageKeys = messageKeys.map MessageKeys.serializePrepare)
    (wellFormed : ∀ key ∈ chainKey, key.WellFormed version) (few : messageKeys.length ≤ MAX_MESSAGE_KEYS) :
    ChainStructure.descriptor.Sized chain 260147 := by
  have key : ∀ value, chain.chainKey = some value → ChainKeyStructure.descriptor.Sized value 52 := by
    intro value there
    exact ChainKey.sized_of_map wellFormed value (ofKey ▸ there)
  have keys : ∀ value ∈ chain.messageKeys, MessageKeyStructure.descriptor.Sized value 120 := by
    intro value there
    rw [ofKeys] at there
    obtain ⟨one, -, rfl⟩ := List.mem_map.mp there
    exact one.sized
  have count : chain.messageKeys.length ≤ MAX_MESSAGE_KEYS := by
    rw [ofKeys, List.length_map]
    exact few
  exact .of_small ((bytes_small (by decide) publicKey (by decide)).cons ((bytes_small (by decide) privateKey (by decide)).cons
    ((message_small (by decide) key (by decide)).cons ((messages_small (by decide) keys (by decide) count).cons (.nil _)))))
    (by decide) (by decide)

theorem SenderChain.sized {version : UInt32} {chain : SenderChain} (wellFormed : ∀ key ∈ chain.chainKey, key.WellFormed version) :
    ChainStructure.descriptor.Sized chain.serializePrepare 260147 :=
  @chainStructure_sized _ _ _ [] (fun _ => length_of_map fun _ => ecPublicKeySerialize_length _)
    (fun _ => length_of_map fun pair => pair.privateKey.length) rfl rfl wellFormed (Nat.zero_le _)

theorem ReceiverChain.sized {version : UInt32} {chain : ReceiverChain} (wellFormed : chain.WellFormed version) :
    ChainStructure.descriptor.Sized chain.serializePrepare 260147 :=
  chainStructure_sized (fun _ => length_of_map ecPublicKeySerialize_length) (fun _ there => by cases there) rfl rfl
    wellFormed.chainKey wellFormed.messageKeys

theorem PendingKeyExchange.sized (exchange : PendingKeyExchange) :
    PendingKeyExchangeStructure.descriptor.Sized exchange.serializePrepare 265 := by
  have publicKey := fun pair data => @length_of_map EcKeyPair _ _ (fun pair => ecPublicKeySerialize_length pair.publicKey) pair data
  have privateKey := fun pair data => @length_of_map EcKeyPair _ _ (fun pair => pair.privateKey.length) pair data
  exact .of_small ((uint32_small (by decide) _ _).cons ((bytes_small (by decide) (publicKey _) (by decide)).cons
    ((bytes_small (by decide) (privateKey _) (by decide)).cons ((bytes_small (by decide) (publicKey _) (by decide)).cons
    ((bytes_small (by decide) (privateKey _) (by decide)).cons ((bytes_small (by decide) (publicKey _) (by decide)).cons
    ((bytes_small (by decide) (privateKey _) (by decide)).cons (.nil _)))))))) (by decide) (by decide)

theorem PendingPreKey.sized (preKey : PendingPreKey) :
    PendingPreKeyStructure.descriptor.Sized preKey.serializePrepare 68 :=
  .of_small ((uint32_small (by decide) _ _).cons ((bytes_small (by decide)
    (fun _ => length_of_map ecPublicKeySerialize_length) (by decide)).cons ((int32_small (by decide) _ _).cons (.nil _))))
    (by decide) (by decide)

theorem SessionState.sized {state : SessionState} (wellFormed : state.WellFormed) :
    SessionStructure.descriptor.Sized state.serializePrepare 1561516 := by
  have publicKey := fun key data => @length_of_map EcPublicKey _ _ ecPublicKeySerialize_length key data
  have rootKey : ∀ data, state.rootKey.map RootKey.key = some data → data.length ≤ 32 := by
    intro data there
    obtain ⟨key, given, rfl⟩ := Option.map_eq_some_iff.mp there
    exact Nat.le_of_eq (wellFormed.rootKey key given).length
  have senderChain : ∀ value, state.senderChain.map SenderChain.serializePrepare = some value →
      ChainStructure.descriptor.Sized value 260147 := by
    intro value there
    obtain ⟨chain, given, rfl⟩ := Option.map_eq_some_iff.mp there
    refine SenderChain.sized fun key present => wellFormed.senderChain key ?_
    rw [getSenderChainKey, given]
    exact present
  have receiverChains : ∀ value ∈ state.receiverChains.map ReceiverChain.serializePrepare,
      ChainStructure.descriptor.Sized value 260147 := by
    intro value there
    obtain ⟨chain, given, rfl⟩ := List.mem_map.mp there
    exact ReceiverChain.sized (wellFormed.receiverChains chain given)
  have few : (state.receiverChains.map ReceiverChain.serializePrepare).length ≤ MAX_RECEIVER_CHAINS := by
    rw [List.length_map]
    exact wellFormed.few
  have exchange : ∀ value, state.pendingKeyExchange.map PendingKeyExchange.serializePrepare = some value →
      PendingKeyExchangeStructure.descriptor.Sized value 265 := by
    intro value there
    obtain ⟨given, -, rfl⟩ := Option.map_eq_some_iff.mp there
    exact given.sized
  have preKey : ∀ value, state.pendingPreKey.map PendingPreKey.serializePrepare = some value →
      PendingPreKeyStructure.descriptor.Sized value 68 := by
    intro value there
    obtain ⟨given, -, rfl⟩ := Option.map_eq_some_iff.mp there
    exact given.sized
  exact .of_small ((uint32_small (by decide) _ _).cons ((bytes_small (by decide) (publicKey _) (by decide)).cons
    ((bytes_small (by decide) (publicKey _) (by decide)).cons ((bytes_small (by decide) rootKey (by decide)).cons
    ((uint32_small (by decide) _ _).cons ((message_small (by decide) senderChain (by decide)).cons
    ((messages_small (by decide) receiverChains (by decide) few).cons ((message_small (by decide) exchange (by decide)).cons
    ((message_small (by decide) preKey (by decide)).cons ((uint32_small (by decide) _ _).cons
    ((uint32_small (by decide) _ _).cons ((bool_small (by decide) _ _).cons
    ((bytes_small (by decide) (publicKey _) (by decide)).cons (.nil _)))))))))))))) (by decide) (by decide)

theorem SessionState.deserialize_serialize {state : SessionState} (wellFormed : state.WellFormed) :
    deserialize state.serialize = .ok state := by
  rw [deserialize, serialize, MessageDescriptor.unpack_pack (SessionState.sized wellFormed).encodable]
  exact deserializeProtobuf_serializePrepare wellFormed

theorem SessionState.copy_eq {state : SessionState} (wellFormed : state.WellFormed) : state.copy = .ok state :=
  deserialize_serialize wellFormed

def ARCHIVED_STATES_MAX_LENGTH : Nat := 40

structure SessionRecord where
  state : SessionState
  previousStates : List SessionState
  isFresh : Bool
deriving DecidableEq, Repr

namespace SessionRecord

def create : Option SessionState → SessionRecord
  | some state => ⟨state, [], false⟩
  | none => ⟨.create, [], true⟩

def serialize (record : SessionRecord) : Bytes :=
  RecordStructure.descriptor.pack
    ⟨some record.state.serializePrepare, record.previousStates.map SessionState.serializePrepare⟩

def deserialize (data : Bytes) : Except SgErr SessionRecord := do
  let recordStructure ← RecordStructure.descriptor.unpack data
  let currentState ← recordStructure.currentSession.mapM SessionState.deserializeProtobuf
  let previousStates ← recordStructure.previousSessions.mapM SessionState.deserializeProtobuf
  return ⟨(create currentState).state, previousStates, false⟩

def hasSessionState (record : SessionRecord) (version : UInt32) (aliceBaseKey : EcPublicKey) : Bool :=
  (record.state :: record.previousStates).any fun state =>
    state.sessionVersion == version && state.aliceBaseKey == some aliceBaseKey

def setState (state : SessionState) (record : SessionRecord) : SessionRecord := { record with state := state }

/-- The current state becomes the newest of the previous ones, of which the oldest are thrown away. -/
def promoteState (promotedState : SessionState) (record : SessionRecord) : SessionRecord :=
  { record with
    state := promotedState
    previousStates := (record.state :: record.previousStates).take ARCHIVED_STATES_MAX_LENGTH }

def archiveCurrentState (record : SessionRecord) : SessionRecord := record.promoteState .create

def getPreviousStatesRemove (index : Nat) (record : SessionRecord) : SessionRecord :=
  { record with previousStates := record.previousStates.eraseIdx index }

structure WellFormed (record : SessionRecord) : Prop where
  state : record.state.WellFormed
  previousStates : ∀ state ∈ record.previousStates, state.WellFormed
  few : record.previousStates.length ≤ ARCHIVED_STATES_MAX_LENGTH

theorem sized {record : SessionRecord} (wellFormed : record.WellFormed) : RecordStructure.descriptor.Sized
    ⟨some record.state.serializePrepare, record.previousStates.map SessionState.serializePrepare⟩ 64022566 := by
  have current : ∀ value, some record.state.serializePrepare = some value →
      SessionStructure.descriptor.Sized value 1561516 := by
    intro value there
    rw [← Option.some.inj there]
    exact SessionState.sized wellFormed.state
  have previous : ∀ value ∈ record.previousStates.map SessionState.serializePrepare,
      SessionStructure.descriptor.Sized value 1561516 := by
    intro value there
    obtain ⟨state, given, rfl⟩ := List.mem_map.mp there
    exact SessionState.sized (wellFormed.previousStates state given)
  have few : (record.previousStates.map SessionState.serializePrepare).length ≤ ARCHIVED_STATES_MAX_LENGTH := by
    rw [List.length_map]
    exact wellFormed.few
  exact .of_small ((message_small (by decide) current (by decide)).cons
    ((messages_small (by decide) previous (by decide) few).cons (.nil _))) (by decide) (by decide)

theorem deserialize_serialize {record : SessionRecord} (wellFormed : record.WellFormed) :
    deserialize record.serialize = .ok { record with isFresh := false } := by
  have current : (some record.state.serializePrepare).mapM SessionState.deserializeProtobuf = .ok (some record.state) := by
    rw [Option.mapM_some, SessionState.deserializeProtobuf_serializePrepare wellFormed.state]
    rfl
  have previous := mapM_decode_map fun state member =>
    SessionState.deserializeProtobuf_serializePrepare (wellFormed.previousStates state member)
  rw [deserialize, serialize, MessageDescriptor.unpack_pack (sized wellFormed).encodable]
  change ((some record.state.serializePrepare).mapM SessionState.deserializeProtobuf >>= _) = _
  rw [current]
  change ((record.previousStates.map SessionState.serializePrepare).mapM SessionState.deserializeProtobuf >>= _) = _
  rw [previous]
  rfl

end SessionRecord

end PillarSignal.Libsignal
