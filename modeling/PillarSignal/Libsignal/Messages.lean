import PillarSignal.Libsignal.Ratchet
import PillarSignal.Libsignal.Structures

namespace PillarSignal.Libsignal

open Protobuf FieldDescriptor

def SIGNAL_MESSAGE_MAC_LENGTH : Nat := 8

def CIPHERTEXT_UNSUPPORTED_VERSION : UInt8 := 1

/-- The version of a message is in the upper half of its first byte. -/
def versionByte (messageVersion : UInt8) : UInt8 := (messageVersion <<< 4) ||| CIPHERTEXT_CURRENT_VERSION

def versionOf (first : UInt8) : UInt8 := (first &&& 0xF0) >>> 4

structure SignalMessage where
  messageVersion : UInt8
  senderRatchetKey : EcPublicKey
  counter : UInt32
  previousCounter : UInt32
  ciphertext : Bytes
  serialized : Bytes
deriving DecidableEq, Repr

namespace SignalMessage

def serialize (messageVersion : UInt8) (senderRatchetKey : EcPublicKey) (counter previousCounter : UInt32)
    (ciphertext : Bytes) : Bytes :=
  versionByte messageVersion :: SignalMessageStructure.descriptor.pack
    ⟨some (ecPublicKeySerialize senderRatchetKey), some counter, some previousCounter, some ciphertext⟩

def deserialize (data : Bytes) : Except SgErr SignalMessage :=
  if data.length ≤ 1 + SIGNAL_MESSAGE_MAC_LENGTH then .error .inval
  else
    let version := versionOf (data.headD 0)
    if version ≤ CIPHERTEXT_UNSUPPORTED_VERSION then .error .legacyMessage
    else if version > CIPHERTEXT_CURRENT_VERSION then .error .invalidMessage
    else
      match SignalMessageStructure.descriptor.unpack
        ((data.drop 1).take (data.length - 1 - SIGNAL_MESSAGE_MAC_LENGTH)) with
      | .error error => .error error
      | .ok ⟨some ratchetKey, some counter, previousCounter, some ciphertext⟩ =>
        (curveDecodePoint ratchetKey).map fun senderRatchetKey =>
          ⟨version, senderRatchetKey, counter, previousCounter.getD 0, ciphertext, data⟩
      | .ok _ => .error .invalidMessage

variable (provider : Provider)

/-- From version 3 on the identities of the two parties are part of what is authenticated. -/
def getMac (messageVersion : UInt8) (senderIdentityKey receiverIdentityKey : EcPublicKey) (macKey serialized : Bytes) :
    Bytes :=
  (provider.hmacSHA256 macKey
    ((if messageVersion ≥ 3 then ecPublicKeySerialize senderIdentityKey ++ ecPublicKeySerialize receiverIdentityKey else []) ++
      serialized)).take SIGNAL_MESSAGE_MAC_LENGTH

def create (messageVersion : UInt8) (macKey : Bytes) (senderRatchetKey : EcPublicKey) (counter previousCounter : UInt32)
    (ciphertext : Bytes) (senderIdentityKey receiverIdentityKey : EcPublicKey) : SignalMessage where
  messageVersion := messageVersion
  senderRatchetKey := senderRatchetKey
  counter := counter
  previousCounter := previousCounter
  ciphertext := ciphertext
  serialized :=
    serialize messageVersion senderRatchetKey counter previousCounter ciphertext ++
      getMac provider messageVersion senderIdentityKey receiverIdentityKey macKey
        (serialize messageVersion senderRatchetKey counter previousCounter ciphertext)

/-- The last bytes of what was received are the code of those before them. -/
def verifyMac (message : SignalMessage) (senderIdentityKey receiverIdentityKey : EcPublicKey) (macKey : Bytes) : Bool :=
  let serializedMessageLen := message.serialized.length - SIGNAL_MESSAGE_MAC_LENGTH
  getMac provider message.messageVersion senderIdentityKey receiverIdentityKey macKey
    (message.serialized.take serializedMessageLen) == message.serialized.drop serializedMessageLen

variable {provider}

theorem getMac_length (messageVersion : UInt8) (senderIdentityKey receiverIdentityKey : EcPublicKey)
    (macKey serialized : Bytes) :
    (getMac provider messageVersion senderIdentityKey receiverIdentityKey macKey serialized).length =
      SIGNAL_MESSAGE_MAC_LENGTH := by
  rw [getMac, List.length_take, provider.hmac_length]
  rfl

theorem verifyMac_create (messageVersion : UInt8) (macKey : Bytes) (senderRatchetKey : EcPublicKey)
    (counter previousCounter : UInt32) (ciphertext : Bytes) (senderIdentityKey receiverIdentityKey : EcPublicKey) :
    (create provider messageVersion macKey senderRatchetKey counter previousCounter ciphertext senderIdentityKey
      receiverIdentityKey).verifyMac provider senderIdentityKey receiverIdentityKey macKey = true := by
  rw [verifyMac, create]
  dsimp only
  rw [List.length_append, getMac_length, Nat.add_sub_cancel, List.take_left, List.drop_left, beq_self_eq_true]

theorem structure_sized (senderRatchetKey : EcPublicKey) (counter previousCounter : UInt32) {ciphertext : Bytes}
    (fits : ciphertext.length < 2 ^ 32 - 5) : SignalMessageStructure.descriptor.Sized
      ⟨some (ecPublicKeySerialize senderRatchetKey), some counter, some previousCounter, some ciphertext⟩
      (73 + ciphertext.length) := by
  have key : ∀ data, some (ecPublicKeySerialize senderRatchetKey) = some data → data.length ≤ 33 := by
    intro data there
    rw [← Option.some.inj there, ecPublicKeySerialize_length]
  have text : ∀ data, some ciphertext = some data → data.length ≤ ciphertext.length := by
    intro data there
    rw [Option.some.inj there]
  exact .of_small ((bytes_small (by decide) key (by decide)).cons ((uint32_small (by decide) _ _).cons
    ((uint32_small (by decide) _ _).cons ((bytes_small (by decide) text fits).cons (.nil _))))) (by decide) (by omega)

theorem create_length_le (messageVersion : UInt8) (macKey : Bytes) (senderRatchetKey : EcPublicKey)
    (counter previousCounter : UInt32) {ciphertext : Bytes} (fits : ciphertext.length < 2 ^ 32 - 5)
    (senderIdentityKey receiverIdentityKey : EcPublicKey) :
    (create provider messageVersion macKey senderRatchetKey counter previousCounter ciphertext senderIdentityKey
      receiverIdentityKey).serialized.length ≤ 82 + ciphertext.length := by
  have sized := (structure_sized senderRatchetKey counter previousCounter fits).length
  rw [create]
  dsimp only
  rw [List.length_append, getMac_length, serialize, List.length_cons, SIGNAL_MESSAGE_MAC_LENGTH]
  omega

theorem versionOf_versionByte {messageVersion : UInt8} (known : messageVersion = 2 ∨ messageVersion = 3) :
    versionOf (versionByte messageVersion) = messageVersion := by
  rcases known with rfl | rfl <;> decide

theorem deserialize_create {messageVersion : UInt8} (known : messageVersion = 2 ∨ messageVersion = 3) (macKey : Bytes)
    (senderRatchetKey : EcPublicKey) (counter previousCounter : UInt32) {ciphertext : Bytes}
    (fits : ciphertext.length < 2 ^ 32 - 5) (senderIdentityKey receiverIdentityKey : EcPublicKey) :
    deserialize (create provider messageVersion macKey senderRatchetKey counter previousCounter ciphertext senderIdentityKey
        receiverIdentityKey).serialized =
      .ok (create provider messageVersion macKey senderRatchetKey counter previousCounter ciphertext senderIdentityKey
        receiverIdentityKey) := by
  have version := versionOf_versionByte known
  have supported : ¬ messageVersion ≤ CIPHERTEXT_UNSUPPORTED_VERSION := by rcases known with rfl | rfl <;> decide
  have current : ¬ messageVersion > CIPHERTEXT_CURRENT_VERSION := by rcases known with rfl | rfl <;> decide
  have back := MessageDescriptor.unpack_pack (structure_sized senderRatchetKey counter previousCounter fits).encodable
  have mac := @getMac_length provider messageVersion senderIdentityKey receiverIdentityKey macKey
    (serialize messageVersion senderRatchetKey counter previousCounter ciphertext)
  rw [create]
  generalize getMac provider messageVersion senderIdentityKey receiverIdentityKey macKey
    (serialize messageVersion senderRatchetKey counter previousCounter ciphertext) = code at mac ⊢
  rw [serialize]
  generalize SignalMessageStructure.descriptor.pack
    ⟨some (ecPublicKeySerialize senderRatchetKey), some counter, some previousCounter, some ciphertext⟩ = body at back ⊢
  have some_byte : body.length ≠ 0 := by
    intro empty
    rw [List.length_eq_zero_iff.mp empty] at back
    cases back
  dsimp only
  have long : ¬ (versionByte messageVersion :: body ++ code).length ≤ 1 + SIGNAL_MESSAGE_MAC_LENGTH := by
    rw [List.length_append, List.length_cons, mac]
    omega
  have inner : ((versionByte messageVersion :: body ++ code).drop 1).take
      ((versionByte messageVersion :: body ++ code).length - 1 - SIGNAL_MESSAGE_MAC_LENGTH) = body := by
    rw [List.cons_append, List.drop_one, List.tail_cons, List.length_cons, Nat.add_sub_cancel, List.length_append, mac,
      Nat.add_sub_cancel, List.take_left]
  rw [deserialize, if_neg long, inner, back, List.cons_append, List.headD_cons, version]
  dsimp only
  rw [if_neg supported, if_neg current, curveDecodePoint_serialize]
  rfl

end SignalMessage

structure PreKeySignalMessage where
  version : UInt8
  registrationId : UInt32
  preKeyId : Option UInt32
  signedPreKeyId : UInt32
  baseKey : EcPublicKey
  identityKey : EcPublicKey
  message : SignalMessage
  serialized : Bytes
deriving DecidableEq, Repr

namespace PreKeySignalMessage

def structureOf (registrationId : UInt32) (preKeyId : Option UInt32) (signedPreKeyId : UInt32)
    (baseKey identityKey : EcPublicKey) (message : SignalMessage) : PreKeySignalMessageStructure where
  preKeyId := preKeyId
  baseKey := some (ecPublicKeySerialize baseKey)
  identityKey := some (ecPublicKeySerialize identityKey)
  message := some message.serialized
  registrationId := some registrationId
  signedPreKeyId := some signedPreKeyId

def create (version : UInt8) (registrationId : UInt32) (preKeyId : Option UInt32) (signedPreKeyId : UInt32)
    (baseKey identityKey : EcPublicKey) (message : SignalMessage) : PreKeySignalMessage where
  version := version
  registrationId := registrationId
  preKeyId := preKeyId
  signedPreKeyId := signedPreKeyId
  baseKey := baseKey
  identityKey := identityKey
  message := message
  serialized := versionByte version :: PreKeySignalMessageStructure.descriptor.pack
    (structureOf registrationId preKeyId signedPreKeyId baseKey identityKey message)

/-- The message inside has to be of the same version. -/
def ofStructure (version : UInt8) (data : Bytes) :
    PreKeySignalMessageStructure → Except SgErr PreKeySignalMessage
  | ⟨preKeyId, some baseKey, some identityKey, some message, registrationId, some signedPreKeyId⟩ => do
    let baseKey ← curveDecodePoint baseKey
    let identityKey ← curveDecodePoint identityKey
    let message ← SignalMessage.deserialize message
    if message.messageVersion ≠ version then .error .invalidVersion
    else return ⟨version, registrationId.getD 0, preKeyId, signedPreKeyId, baseKey, identityKey, message, data⟩
  | _ => .error .invalidMessage

def deserialize (data : Bytes) : Except SgErr PreKeySignalMessage :=
  if data.length ≤ 1 then .error .inval
  else
    let version := versionOf (data.headD 0)
    if version < CIPHERTEXT_CURRENT_VERSION then .error .legacyMessage
    else if version > CIPHERTEXT_CURRENT_VERSION then .error .invalidVersion
    else (PreKeySignalMessageStructure.descriptor.unpack (data.drop 1)).bind (ofStructure version data)

theorem structure_sized (registrationId : UInt32) (preKeyId : Option UInt32) (signedPreKeyId : UInt32)
    (baseKey identityKey : EcPublicKey) {message : SignalMessage} (fits : message.serialized.length < 2 ^ 32 - 5) :
    PreKeySignalMessageStructure.descriptor.Sized
      (structureOf registrationId preKeyId signedPreKeyId baseKey identityKey message)
      (126 + message.serialized.length) := by
  have key : ∀ (key : EcPublicKey) data, some (ecPublicKeySerialize key) = some data → data.length ≤ 33 := by
    intro key data there
    rw [← Option.some.inj there, ecPublicKeySerialize_length]
  have inner : ∀ data, some message.serialized = some data → data.length ≤ message.serialized.length := by
    intro data there
    rw [Option.some.inj there]
  exact .of_small ((uint32_small (by decide) _ _).cons ((bytes_small (by decide) (key baseKey) (by decide)).cons
    ((bytes_small (by decide) (key identityKey) (by decide)).cons ((bytes_small (by decide) inner fits).cons
    ((uint32_small (by decide) _ _).cons ((uint32_small (by decide) _ _).cons (.nil _))))))) (by decide) (by omega)

theorem deserialize_create (registrationId : UInt32) (preKeyId : Option UInt32) (signedPreKeyId : UInt32)
    (baseKey identityKey : EcPublicKey) {message : SignalMessage} (fits : message.serialized.length < 2 ^ 32 - 5)
    (inner : SignalMessage.deserialize message.serialized = .ok message) (same : message.messageVersion = 3) :
    deserialize (create 3 registrationId preKeyId signedPreKeyId baseKey identityKey message).serialized =
      .ok (create 3 registrationId preKeyId signedPreKeyId baseKey identityKey message) := by
  have back := MessageDescriptor.unpack_pack
    (structure_sized registrationId preKeyId signedPreKeyId baseKey identityKey fits).encodable
  have version : versionOf (versionByte 3) = 3 := by decide
  rw [create]
  dsimp only
  generalize PreKeySignalMessageStructure.descriptor.pack
    (structureOf registrationId preKeyId signedPreKeyId baseKey identityKey message) = body at back ⊢
  have some_byte : body.length ≠ 0 := by
    intro empty
    rw [List.length_eq_zero_iff.mp empty] at back
    cases back
  rw [deserialize, if_neg (by rw [List.length_cons]; omega), List.headD_cons, List.drop_one, List.tail_cons, version, back]
  dsimp only
  rw [if_neg (by decide), if_neg (by decide), Except.bind, structureOf, ofStructure, curveDecodePoint_serialize,
    curveDecodePoint_serialize, inner]
  change (if message.messageVersion ≠ 3 then _ else _) = _
  rw [if_neg (by simp [same])]
  rfl

end PreKeySignalMessage

end PillarSignal.Libsignal
