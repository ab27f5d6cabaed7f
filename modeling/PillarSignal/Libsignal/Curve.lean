import PillarSignal.Protocol.Envelope

namespace PillarSignal.Libsignal

/-- The results below zero. The last two are none of them: the library reads outside of its buffer, or one of its
    assertions fails. -/
inductive SgErr where
  | inval
  | unknown
  | duplicateMessage
  | invalidKey
  | invalidKeyId
  | invalidMessage
  | invalidVersion
  | legacyMessage
  | noSession
  | untrustedIdentity
  | invalidProtoBuf
  | noData
  | overrun
  | abort
deriving DecidableEq, Repr

def DJB_TYPE : UInt8 := 0x05

def DJB_KEY_LEN : Nat := 32

@[ext] structure EcPublicKey where
  data : Bytes
  length : data.length = DJB_KEY_LEN
deriving DecidableEq, Repr

@[ext] structure EcPrivateKey where
  data : Bytes
  length : data.length = DJB_KEY_LEN
deriving DecidableEq, Repr

structure EcKeyPair where
  publicKey : EcPublicKey
  privateKey : EcPrivateKey
deriving DecidableEq, Repr

def ecPublicKeySerialize (key : EcPublicKey) : Bytes := DJB_TYPE :: key.data

def curveDecodePoint (keyData : Bytes) : Except SgErr EcPublicKey :=
  match keyData with
  | [] => .error .invalidKey
  | type :: data =>
    if type ≠ DJB_TYPE then .error .invalidKey
    else if length : data.length = DJB_KEY_LEN then .ok ⟨data, length⟩ else .error .invalidKey

def ecPrivateKeySerialize (key : EcPrivateKey) : Bytes := key.data

def curveDecodePrivatePoint (keyData : Bytes) : Except SgErr EcPrivateKey :=
  if length : keyData.length = DJB_KEY_LEN then .ok ⟨keyData, length⟩ else .error .invalidKey

@[simp] theorem curveDecodePoint_serialize (key : EcPublicKey) : curveDecodePoint (ecPublicKeySerialize key) = .ok key := by
  simp [curveDecodePoint, ecPublicKeySerialize, key.length]

@[simp] theorem curveDecodePrivatePoint_serialize (key : EcPrivateKey) :
    curveDecodePrivatePoint (ecPrivateKeySerialize key) = .ok key := by
  simp [curveDecodePrivatePoint, ecPrivateKeySerialize, key.length]

@[simp] theorem ecPublicKeySerialize_length (key : EcPublicKey) : (ecPublicKeySerialize key).length = 33 := by
  rw [ecPublicKeySerialize, List.length_cons, key.length]
  rfl

/-- The functions that the library takes from its crypto provider and from its curve: AES also in
    counter mode, the product of a scalar and a point, and the check of a signature. -/
structure Provider extends Ciphers where
  encryptCTR : (key iv plaintext : Bytes) → Bytes
  decryptCTR : (key iv ciphertext : Bytes) → Option Bytes
  decryptError : (key iv ciphertext : Bytes) → SgErr
  curve25519Donna : (secret : EcPrivateKey) → (point : EcPublicKey) → EcPublicKey
  curve25519Verify : (signature : Bytes) → (publicKey : EcPublicKey) → (message : Bytes) → Bool
  donna_comm : ∀ first second point,
    curve25519Donna first (curve25519Donna second point) = curve25519Donna second (curve25519Donna first point)

def basepoint : EcPublicKey := ⟨9 :: List.replicate 31 0, by decide⟩

/-- The bits that every private key has in common. -/
def clamp (data : Bytes) : Bytes :=
  (data.modify 0 (· &&& 248)).modify 31 fun last => (last &&& 127) ||| 64

def curveGeneratePrivateKey (random : EcPrivateKey) : EcPrivateKey :=
  ⟨clamp random.data, by rw [clamp, List.length_modify, List.length_modify, random.length]⟩

variable (provider : Provider)

def curveGeneratePublicKey (privateKey : EcPrivateKey) : EcPublicKey := provider.curve25519Donna privateKey basepoint

def curveGenerateKeyPair (random : EcPrivateKey) : EcKeyPair :=
  ⟨curveGeneratePublicKey provider (curveGeneratePrivateKey random), curveGeneratePrivateKey random⟩

def curveCalculateAgreement (publicKey : EcPublicKey) (privateKey : EcPrivateKey) : Bytes :=
  (provider.curve25519Donna privateKey publicKey).data

def CURVE_SIGNATURE_LEN : Nat := 64

def curveVerifySignature (signingKey : EcPublicKey) (message signature : Bytes) : Except SgErr Bool :=
  if signature.length ≠ CURVE_SIGNATURE_LEN then .error .inval
  else .ok (provider.curve25519Verify signature signingKey message)

def EcKeyPair.Valid (pair : EcKeyPair) : Prop := pair.publicKey = curveGeneratePublicKey provider pair.privateKey

instance (pair : EcKeyPair) : Decidable (pair.Valid provider) := inferInstanceAs (Decidable (_ = _))

theorem curveGenerateKeyPair_valid (random : EcPrivateKey) : (curveGenerateKeyPair provider random).Valid provider := rfl

variable {provider}

theorem curveCalculateAgreement_comm {first second : EcKeyPair} (one : first.Valid provider) (two : second.Valid provider) :
    curveCalculateAgreement provider first.publicKey second.privateKey =
      curveCalculateAgreement provider second.publicKey first.privateKey := by
  rw [curveCalculateAgreement, curveCalculateAgreement, one, two, curveGeneratePublicKey, curveGeneratePublicKey,
    provider.donna_comm]

end PillarSignal.Libsignal
