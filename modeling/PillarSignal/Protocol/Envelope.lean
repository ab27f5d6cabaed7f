import PillarSignal.Protocol.Keys

namespace PillarSignal

/-- AES-256 in CBC mode with padding, and SHA-256 with its HMAC. -/
structure Ciphers where
  encryptCBC : (key iv plaintext : Bytes) → Bytes
  decryptCBC : (key iv ciphertext : Bytes) → Option Bytes
  sha256 : Bytes → Bytes
  hmacSHA256 : (key data : Bytes) → Bytes
  decrypt_encrypt : ∀ key iv plaintext, key.length = 32 → iv.length = 16 →
    decryptCBC key iv (encryptCBC key iv plaintext) = some plaintext
  hmac_length : ∀ key data, (hmacSHA256 key data).length = 32

def plainCiphers : Ciphers where
  encryptCBC _ _ plaintext := plaintext
  decryptCBC _ _ ciphertext := some ciphertext
  sha256 _ := []
  hmacSHA256 _ _ := List.replicate 32 0
  decrypt_encrypt _ _ _ _ _ := rfl
  hmac_length _ _ := List.length_replicate

def sampleSignalingKey : Bytes := List.replicate 52 1

def pad (plaintext : Bytes) : Bytes :=
  let missing := 16 - plaintext.length % 16
  plaintext ++ List.replicate missing (UInt8.ofNat missing)

def unpad (bytes : Bytes) : Option Bytes :=
  if bytes.length % 16 = 0 then
    bytes.getLast?.bind fun last =>
      if bytes.drop (bytes.length - last.toNat) = List.replicate last.toNat last then
        some (bytes.take (bytes.length - last.toNat))
      else none
  else none

theorem unpad_pad (plaintext : Bytes) : unpad (pad plaintext) = some plaintext := by
  obtain ⟨missing, count, positive, small⟩ :
      ∃ missing, 16 - plaintext.length % 16 = missing + 1 ∧ 0 < missing + 1 ∧ missing + 1 ≤ 16 := by
    refine ⟨15 - plaintext.length % 16, ?_⟩
    omega
  have size : (UInt8.ofNat (missing + 1)).toNat = missing + 1 := by
    rw [UInt8.toNat_ofNat']
    omega
  have length : (plaintext ++ List.replicate (missing + 1) (UInt8.ofNat (missing + 1))).length =
      plaintext.length + (missing + 1) := by
    rw [List.length_append, List.length_replicate]
  have last : (plaintext ++ List.replicate (missing + 1) (UInt8.ofNat (missing + 1))).getLast? =
      some (UInt8.ofNat (missing + 1)) := by
    rw [List.replicate_succ', ← List.append_assoc, List.getLast?_concat]
  rw [pad, count, unpad, length, if_pos (by omega), last, Option.bind_some, size, Nat.add_sub_cancel, List.drop_left,
    if_pos rfl, List.take_left]

def paddingCiphers : Ciphers where
  encryptCBC _ _ plaintext := pad plaintext
  decryptCBC _ _ ciphertext := unpad ciphertext
  sha256 _ := []
  hmacSHA256 _ _ := List.replicate 32 0
  decrypt_encrypt _ _ plaintext _ _ := unpad_pad plaintext
  hmac_length _ _ := List.length_replicate

namespace SignalingEnvelope

variable (ciphers : Ciphers)

def cipherKey (signalingKey : Bytes) : Bytes := signalingKey.take 32

def macKey (signalingKey : Bytes) : Bytes := (signalingKey.drop 32).take 20

def mac (signalingKey data : Bytes) : Bytes := (ciphers.hmacSHA256 (macKey signalingKey) data).take 10

/-- A version, an initialisation vector and a ciphertext, with the mac of all three after them. -/
def Authentic (signalingKey payload : Bytes) : Prop :=
  ∃ version iv ciphertext, version.length = 1 ∧ iv.length = 16 ∧
    payload = version ++ iv ++ ciphertext ++ mac ciphers signalingKey (version ++ iv ++ ciphertext)

def sealed (signalingKey : Bytes) (version : UInt8) (iv plaintext : Bytes) : Bytes :=
  let authenticated := [version] ++ iv ++ ciphers.encryptCBC (cipherKey signalingKey) iv plaintext
  authenticated ++ mac ciphers signalingKey authenticated

variable {ciphers}

theorem mac_length (signalingKey data : Bytes) : (mac ciphers signalingKey data).length = 10 := by
  simp [mac, ciphers.hmac_length]

theorem Authentic.mac_eq {signalingKey payload : Bytes} (authentic : Authentic ciphers signalingKey payload) :
    payload.drop (payload.length - 10) = mac ciphers signalingKey (payload.take (payload.length - 10)) := by
  obtain ⟨version, iv, ciphertext, _, _, rfl⟩ := authentic
  have size : (version ++ iv ++ ciphertext ++ mac ciphers signalingKey (version ++ iv ++ ciphertext)).length - 10 =
      (version ++ iv ++ ciphertext).length := by
    rw [List.length_append, mac_length]
    omega
  rw [size, List.drop_left, List.take_left]

theorem sealed_authentic (signalingKey : Bytes) (version : UInt8) {iv : Bytes} (sixteen : iv.length = 16) (plaintext : Bytes) :
    Authentic ciphers signalingKey (sealed ciphers signalingKey version iv plaintext) :=
  ⟨[version], iv, _, rfl, sixteen, rfl⟩

theorem sealed_parts (ciphers : Ciphers) (signalingKey : Bytes) (version : UInt8) {iv : Bytes}
    (sixteen : iv.length = 16) (plaintext : Bytes) :
    let payload := sealed ciphers signalingKey version iv plaintext
    27 ≤ payload.length ∧ (payload.drop 1).take 16 = iv ∧ (payload.drop 17).take (payload.length - 27) =
      ciphers.encryptCBC (cipherKey signalingKey) iv plaintext := by
  intro payload
  have parts : payload = version :: (iv ++ (ciphers.encryptCBC (cipherKey signalingKey) iv plaintext ++
      mac ciphers signalingKey ([version] ++ iv ++ ciphers.encryptCBC (cipherKey signalingKey) iv plaintext))) := by
    simp [payload, sealed]
  have size : payload.length = (ciphers.encryptCBC (cipherKey signalingKey) iv plaintext).length + 27 := by
    rw [parts]
    simp only [List.length_cons, List.length_append, mac_length]
    omega
  refine ⟨by omega, ?_, ?_⟩
  · rw [parts, List.drop_one, List.tail_cons, ← sixteen, List.take_left]
  · rw [size, Nat.add_sub_cancel, parts, List.drop_succ_cons, ← sixteen, List.drop_left, List.take_left]

end SignalingEnvelope
end PillarSignal
