import PillarSignal.Protocol.Keys
import PillarSignal.Storage.Decimal
import Mathlib.Data.List.Basic

namespace PillarSignal.Plain

open Storage

/-- Byte strings one after the other: each byte is announced by a 1, each end by a 0. -/
def pack : List Bytes → Bytes
  | [] => []
  | part :: parts => part.flatMap (fun byte => [1, byte]) ++ 0 :: pack parts

def unpack : Bytes → Bytes → Option (List Bytes)
  | [], [] => some []
  | 0 :: rest, read => (unpack rest []).map (read.reverse :: ·)
  | 1 :: byte :: rest, read => unpack rest (byte :: read)
  | _, _ => none

theorem unpack_part (part read rest : Bytes) :
    unpack (part.flatMap (fun byte => [1, byte]) ++ 0 :: rest) read =
      (unpack rest []).map ((read.reverse ++ part) :: ·) := by
  induction part generalizing read with
  | nil => simp [unpack]
  | cons byte part ih =>
    have step := ih (byte :: read)
    simpa [unpack] using step

theorem unpack_pack (parts : List Bytes) : unpack (pack parts) [] = some parts := by
  induction parts with
  | nil => rfl
  | cons part parts ih => simp [pack, unpack_part, ih]

theorem toNat_char : ∀ code < 256, (Char.ofNat code).toNat = code := by decide +kernel

def text : TextCodec Bytes where
  encode bytes := String.ofList (bytes.map fun byte => Char.ofNat byte.toNat)
  decode text := text.toList.mapM fun c => if c.toNat < 256 then some (UInt8.ofNat c.toNat) else none
  decode_encode bytes := by
    have single : ∀ byte : UInt8, (Char.ofNat byte.toNat).toNat = byte.toNat :=
      fun byte => toNat_char byte.toNat byte.toNat_lt
    rw [String.toList_ofList]
    induction bytes with
    | nil => rfl
    | cons byte bytes ih =>
      have small := byte.toNat_lt
      rw [List.map_cons, List.mapM_cons, ih, single, if_pos (by simpa using small)]
      simp

theorem intText_small (value : Int) : ∀ c ∈ Decimal.intText value, c.toNat < 256 := by
  have digits : ∀ c ∈ Decimal.natText value.natAbs, c.toNat < 256 := by
    intro c member
    have digit := Decimal.natText_isDigit value.natAbs c member
    simp only [Char.isDigit, Bool.and_eq_true, decide_eq_true_eq] at digit
    have upper : c.val.toNat ≤ '9'.val.toNat := digit.2
    change c.val.toNat < 256
    have nine : '9'.val.toNat = 57 := rfl
    omega
  intro c member
  unfold Decimal.intText Decimal.signedText at member
  split at member
  · rcases List.mem_cons.mp member with rfl | member
    · decide
    · exact digits c member
  · exact digits c member

def intData : DataCodec Int where
  encode value := (Decimal.intText value).map fun c => UInt8.ofNat c.toNat
  decode bytes := Decimal.readInt (bytes.map fun byte => Char.ofNat byte.toNat)
  decode_encode value := by
    have same : ((Decimal.intText value).map fun c => UInt8.ofNat c.toNat).map (fun byte => Char.ofNat byte.toNat) =
        Decimal.intText value := by
      rw [List.map_map]
      refine (List.map_congr_left fun c member => ?_).trans (List.map_id _)
      have small := intText_small value c member
      rw [Function.comp_apply, UInt8.toNat_ofNat_of_lt' small, Char.ofNat_toNat]
      rfl
    rw [same, Decimal.readInt_intText]

def preKeyData : DataCodec PreKeyRecord where
  encode record := pack [intData.encode record.id, record.keyPair.publicKey.bytes, record.keyPair.privateKey]
  decode bytes := do
    match ← unpack bytes [] with
    | [id, publicKey, privateKey] => pure ⟨← intData.decode id, ⟨publicKey⟩, privateKey⟩
    | _ => none
  decode_encode record := by simp [unpack_pack, intData.decode_encode]

def signedPreKeyData : DataCodec SignedPreKeyRecord where
  encode record := pack [intData.encode record.id, record.keyPair.publicKey.bytes, record.keyPair.privateKey,
    record.signature]
  decode bytes := do
    match ← unpack bytes [] with
    | [id, publicKey, privateKey, signature] =>
      pure ⟨← intData.decode id, ⟨⟨publicKey⟩, privateKey⟩, signature⟩
    | _ => none
  decode_encode record := by simp [unpack_pack, intData.decode_encode]

def keyPairData : DataCodec KeyPair where
  encode keyPair := pack [keyPair.publicKey.bytes, keyPair.privateKey]
  decode bytes := do
    match ← unpack bytes [] with
    | [publicKey, privateKey] => some ⟨⟨publicKey⟩, privateKey⟩
    | _ => none
  decode_encode keyPair := by simp [unpack_pack]

def publicKeyData : DataCodec PublicKey where
  encode := PublicKey.bytes
  decode bytes := some ⟨bytes⟩
  decode_encode _ := rfl

def sessionData : DataCodec SessionRecord where
  encode := SessionRecord.state
  decode bytes := some ⟨bytes⟩
  decode_encode _ := rfl

def texts : RecordTexts where
  bytes := text
  publicKey := text.comp publicKeyData
  identityKeyPair := text.comp keyPairData
  preKey := text.comp preKeyData
  signedPreKey := text.comp signedPreKeyData
  session := text.comp sessionData

def bobEntry : List (String × Json) :=
  [("message", .str "m"), ("source", .str "bob"), ("timestamp", .num 5), ("tag", .str "chat"), ("type", .num 1)]

def bobQueue : List Char :=
  "\x7b\"messages\":[\x7b\"message\":\"m\",".toList ++ "\"source\":\"bob\",\"timestamp\":5,".toList ++
    "\"tag\":\"chat\",\"type\":1\x7d]\x7d".toList

def bobPush : List Char :=
  "\x7b\"legacyMessage\":\"m\",".toList ++ "\"source\":\"bob\",\"timestamp\":5\x7d".toList

def keysAnswer (devices : List Char) : List Char :=
  "\x7b\"identityKey\":\"i\",\"devices\":".toList ++ devices ++ ['\x7d']

def bobDevice : List Char :=
  "[\x7b\"deviceId\":1,\"registrationId\":2,".toList ++ "\"preKey\":\x7b\"keyId\":3,\"publicKey\":\"k\"\x7d,".toList ++
    "\"signedPreKey\":\x7b\"keyId\":4,".toList ++ "\"publicKey\":\"l\",\"signature\":\"s\"\x7d\x7d]".toList

end PillarSignal.Plain
