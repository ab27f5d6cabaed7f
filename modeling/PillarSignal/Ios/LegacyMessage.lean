import PillarSignal.Protocol.Envelope

namespace PillarSignal.Ios

/-- How the app stops: at an `assert`, or at an exception of Foundation. -/
inductive Stop where
  | assertion
  | exception
deriving DecidableEq, Repr

/-- What surrounds the decryption of envelopes; `asserts` tells whether the build keeps its assertions. -/
structure Foundation where
  ciphers : Ciphers
  dataFromBase64String : String → Option Bytes
  asserts : Bool

def SIZE_MAX : Nat := 2 ^ 64 - 1

def UINT32_MAX : Nat := 2 ^ 32 - 1

inductive TSMACType where
  | TSHMACSHA256Truncated10Bytes
  | TSHMACSHA256AttachementType
deriving DecidableEq, Repr

def subdata (data : Bytes) (location length : Nat) : Except Stop Bytes :=
  if location + length ≤ data.length then .ok ((data.drop location).take length) else .error .exception

namespace LegacyMessage

variable (foundation : Foundation)

def kHMAC256_EnvelopeKeyLength : Nat := 20

def HMAC256_KEY_LENGTH : Nat := 32

def HMAC256_OUTPUT_LENGTH : Nat := 32

def kCCKeySizeAES256 : Nat := 32

def kCCBlockSizeAES128 : Nat := 16

def check (condition : Bool) : Except Stop Unit :=
  if foundation.asserts && !condition then .error .assertion else .ok ()

def length (data : Option Bytes) : Nat := (data.getD []).length

def computeSHA256HMAC (data : Bytes) (HMACKey : Option Bytes) : Option Bytes :=
  if data.length ≥ SIZE_MAX then none
  else if length HMACKey ≥ SIZE_MAX then none
  else some (foundation.ciphers.hmacSHA256 (HMACKey.getD []) data)

def truncatedSHA256HMAC (dataToHMAC : Bytes) (HMACKey : Option Bytes) (truncation : Nat) : Except Stop (Option Bytes) := do
  check foundation (truncation ≤ 32)
  check foundation HMACKey.isSome
  match computeSHA256HMAC foundation dataToHMAC HMACKey with
  | none => pure none
  | some hmac => some <$> subdata hmac 0 truncation

def computeSHA256Digest (data : Bytes) : Option Bytes :=
  if data.length ≥ UINT32_MAX then none else some (foundation.ciphers.sha256 data)

def ourHmac (dataToAuth : Bytes) (hmacKey : Option Bytes) (keyLength truncation : Nat) : Except Stop (Option Bytes) := do
  check foundation (length hmacKey == keyLength)
  let ourHmacData ← truncatedSHA256HMAC foundation dataToAuth hmacKey truncation
  check foundation (length ourHmacData == truncation)
  pure ourHmacData

def decryptCBCMode (dataToDecrypt : Bytes) (key : Option Bytes) (iv : Bytes) (version : Option Bytes)
    (hmacKey : Option Bytes) (hmacType : TSMACType) (_hmac : Bytes) (digest : Option Bytes) :
    Except Stop (Option Bytes) := do
  check foundation key.isSome
  if length key ≠ kCCKeySizeAES256 then return none
  if iv.length ≠ kCCBlockSizeAES128 then return none
  check foundation hmacKey.isSome
  if SIZE_MAX < dataToDecrypt.length + kCCBlockSizeAES128 then return none
  if SIZE_MAX < dataToDecrypt.length + iv.length then return none
  if SIZE_MAX < dataToDecrypt.length + iv.length + length version then return none
  let dataToAuth := version.getD [] ++ iv ++ dataToDecrypt
  let ourHmacData ← match hmacType with
    | .TSHMACSHA256Truncated10Bytes => ourHmac foundation dataToAuth hmacKey kHMAC256_EnvelopeKeyLength 10
    | .TSHMACSHA256AttachementType => ourHmac foundation dataToAuth hmacKey HMAC256_KEY_LENGTH HMAC256_OUTPUT_LENGTH
  -- the comparison of `ourHmacData` with `hmac` is commented out
  if let some digest := digest then
    match ourHmacData with
    | none => throw .exception
    | some ourHmacData =>
      if computeSHA256Digest foundation (dataToAuth ++ ourHmacData) ≠ some digest then return none
  return foundation.ciphers.decryptCBC (key.getD []) iv dataToDecrypt

def decryptAppleMessagePayload (body signalingKeyString : String) : Except Stop (Option Bytes) := do
  let payload := foundation.dataFromBase64String body
  check foundation payload.isSome
  let payload := payload.getD []
  let versionLength := 1
  let ivLength := 16
  let macLength := 10
  let nonCiphertextLength := versionLength + ivLength + macLength
  let ciphertextLength := payload.length - nonCiphertextLength
  check foundation (nonCiphertextLength ≤ payload.length)
  if payload.length < nonCiphertextLength then return none
  if payload.length ≥ SIZE_MAX - nonCiphertextLength then return none
  let cursor := 0
  let versionData ← subdata payload cursor versionLength
  let cursor := cursor + versionLength
  let ivData ← subdata payload cursor ivLength
  let cursor := cursor + ivLength
  let ciphertextData ← subdata payload cursor ciphertextLength
  -- the cursor is not moved over the ciphertext
  let macData ← subdata payload cursor macLength
  match foundation.dataFromBase64String signalingKeyString with
  | none => decryptCBCMode foundation ciphertextData none ivData versionData none .TSHMACSHA256Truncated10Bytes macData none
  | some signalingKey =>
    let signalingKeyAESKeyMaterial ← subdata signalingKey 0 32
    let signalingKeyHMACKeyMaterial ← subdata signalingKey 32 kHMAC256_EnvelopeKeyLength
    decryptCBCMode foundation ciphertextData signalingKeyAESKeyMaterial ivData versionData signalingKeyHMACKeyMaterial
      .TSHMACSHA256Truncated10Bytes macData none

variable {foundation}

theorem subdata_eq {data : Bytes} {location length : Nat} (within : location + length ≤ data.length) :
    subdata data location length = .ok ((data.drop location).take length) := if_pos within

@[simp] theorem check_true : check foundation true = .ok () := by simp [check]

theorem ourHmac_eq {dataToAuth hmacKey : Bytes} {keyLength truncation : Nat} (keyed : hmacKey.length = keyLength)
    (short : truncation ≤ 32) (small : keyLength < SIZE_MAX) (fits : dataToAuth.length < SIZE_MAX) :
    ourHmac foundation dataToAuth hmacKey keyLength truncation =
      .ok (some ((foundation.ciphers.hmacSHA256 hmacKey dataToAuth).take truncation)) := by
  have computed : computeSHA256HMAC foundation dataToAuth hmacKey =
      some (foundation.ciphers.hmacSHA256 hmacKey dataToAuth) := by
    rw [computeSHA256HMAC, if_neg (by omega), if_neg]
    · rfl
    · rw [length, Option.getD_some]
      omega
  have hmac := foundation.ciphers.hmac_length hmacKey dataToAuth
  have cut : subdata (foundation.ciphers.hmacSHA256 hmacKey dataToAuth) 0 truncation =
      .ok ((foundation.ciphers.hmacSHA256 hmacKey dataToAuth).take truncation) := subdata_eq (by omega)
  simp [ourHmac, truncatedSHA256HMAC, computed, cut, length, keyed, short, hmac, bind, Except.bind, pure, Except.pure]

/-- An envelope's part is decrypted whatever its mac. -/
theorem decryptCBCMode_envelope {dataToDecrypt key iv version hmacKey : Bytes} (hmac : Bytes) (keyed : key.length = 32)
    (sixteen : iv.length = 16) (single : version.length = 1) (twenty : hmacKey.length = 20)
    (fits : dataToDecrypt.length + 27 < SIZE_MAX) :
    decryptCBCMode foundation dataToDecrypt key iv version hmacKey .TSHMACSHA256Truncated10Bytes hmac none =
      .ok (foundation.ciphers.decryptCBC key iv dataToDecrypt) := by
  have mac := @ourHmac_eq foundation (version ++ iv ++ dataToDecrypt) hmacKey kHMAC256_EnvelopeKeyLength 10 twenty
    (by decide) (by decide) (by simp only [List.length_append]; omega)
  have block : ¬ SIZE_MAX < dataToDecrypt.length + kCCBlockSizeAES128 := by
    rw [kCCBlockSizeAES128]
    omega
  have authenticated : ¬ SIZE_MAX < dataToDecrypt.length + kCCBlockSizeAES128 + length (some version) := by
    rw [length, Option.getD_some, kCCBlockSizeAES128]
    omega
  have sized : length (some key) = kCCKeySizeAES256 := keyed
  have blocked : iv.length = kCCBlockSizeAES128 := sixteen
  simp only [decryptCBCMode, Option.isSome_some, check_true, sized, ne_eq, not_true_eq_false, if_false, blocked, block,
    authenticated, Option.getD_some, mac, bind, Except.bind, pure, Except.pure]

theorem decryptAppleMessagePayload_eq {body signalingKeyString : String} {payload signalingKey : Bytes}
    (decoded : foundation.dataFromBase64String body = some payload)
    (keyed : foundation.dataFromBase64String signalingKeyString = some signalingKey) (long : 52 ≤ signalingKey.length)
    (enough : 27 ≤ payload.length) (fits : payload.length < SIZE_MAX - 27) :
    decryptAppleMessagePayload foundation body signalingKeyString =
      .ok (foundation.ciphers.decryptCBC (SignalingEnvelope.cipherKey signalingKey) ((payload.drop 1).take 16)
        ((payload.drop 17).take (payload.length - 27))) := by
  have opened := @decryptCBCMode_envelope foundation ((payload.drop 17).take (payload.length - 27))
    (signalingKey.take 32) ((payload.drop 1).take 16) (payload.take 1) ((signalingKey.drop 32).take 20)
    ((payload.drop 17).take 10) (by simp; omega) (by simp; omega) (by simp; omega) (by simp; omega) (by simp; omega)
  have enough' : ¬ payload.length < 27 := by omega
  have fits' : ¬ payload.length ≥ SIZE_MAX - 27 := by omega
  have version : subdata payload 0 1 = .ok (payload.take 1) := subdata_eq (by omega)
  have iv : subdata payload 1 16 = .ok ((payload.drop 1).take 16) := subdata_eq (by omega)
  have ciphertext : subdata payload 17 (payload.length - 27) = .ok ((payload.drop 17).take (payload.length - 27)) :=
    subdata_eq (by omega)
  have mac : subdata payload 17 10 = .ok ((payload.drop 17).take 10) := subdata_eq (by omega)
  have cipherKey : subdata signalingKey 0 32 = .ok (signalingKey.take 32) := subdata_eq (by omega)
  have macKey : subdata signalingKey 32 kHMAC256_EnvelopeKeyLength = .ok ((signalingKey.drop 32).take 20) :=
    subdata_eq (by rw [kHMAC256_EnvelopeKeyLength]; omega)
  simp only [decryptAppleMessagePayload, decoded, keyed, Option.isSome_some, check_true, Option.getD_some, Nat.reduceAdd,
    enough, decide_true, enough', fits', if_false, version, iv, ciphertext, mac, cipherKey, macKey, bind, Except.bind,
    opened, SignalingEnvelope.cipherKey]

theorem decryptAppleMessagePayload_refused {body signalingKeyString : String} {payload : Bytes}
    (decoded : foundation.dataFromBase64String body = some payload)
    (refused : payload.length < 27 ∨ SIZE_MAX - 27 ≤ payload.length) (plaintext : Bytes) :
    decryptAppleMessagePayload foundation body signalingKeyString ≠ .ok (some plaintext) := by
  simp only [decryptAppleMessagePayload, decoded, Option.isSome_some, check_true, Option.getD_some, Nat.reduceAdd, bind,
    Except.bind, pure, Except.pure]
  cases check foundation (decide (27 ≤ payload.length)) with
  | error stop => nofun
  | ok passed =>
    dsimp only
    split
    · nofun
    · rw [if_pos (by omega)]
      nofun

end LegacyMessage
end PillarSignal.Ios
