import PillarSignal.Libsignal.Curve

namespace PillarSignal.Libsignal

def CIPHERTEXT_CURRENT_VERSION : UInt8 := 3

def HASH_OUTPUT_SIZE : Nat := 32

inductive Hkdf where
  | v2
  | v3
deriving DecidableEq, Repr

def Hkdf.iterationStartOffset : Hkdf → UInt8
  | v2 => 0
  | v3 => 1

def hkdfCreate (messageVersion : UInt32) : Except SgErr Hkdf :=
  if messageVersion = 2 then .ok .v2 else if messageVersion = 3 then .ok .v3 else .error .inval

structure ChainKey where
  kdf : Hkdf
  key : Bytes
  index : UInt32
deriving DecidableEq, Repr

structure RootKey where
  kdf : Hkdf
  key : Bytes
deriving DecidableEq, Repr

structure MessageKeys where
  cipherKey : Bytes
  macKey : Bytes
  iv : Bytes
  counter : UInt32
  cipherKey_length : cipherKey.length = 32
  macKey_length : macKey.length = 32
  iv_length : iv.length = 16
deriving DecidableEq, Repr

variable (provider : Provider)

def hkdfExtract (salt inputKeyMaterial : Bytes) : Bytes := provider.hmacSHA256 salt inputKeyMaterial

/-- The loop of `hkdf_expand`, which ends after this many rounds if its counter does not wrap before. -/
def hkdfExpandLoop (prk info : Bytes) : (rounds : Nat) → (i : UInt8) → (step : Bytes) → (remaining : Nat) → Bytes
  | 0, _, _, _ => []
  | rounds + 1, i, step, remaining =>
    let step := provider.hmacSHA256 prk (step ++ info ++ [i])
    step.take remaining ++ hkdfExpandLoop prk info rounds (i + 1) step (remaining - step.length)

def hkdfExpand (kdf : Hkdf) (prk info : Bytes) (outputLen : Nat) : Bytes :=
  hkdfExpandLoop provider prk info ((outputLen + HASH_OUTPUT_SIZE - 1) / HASH_OUTPUT_SIZE) kdf.iterationStartOffset [] outputLen

def hkdfDeriveSecrets (kdf : Hkdf) (inputKeyMaterial salt info : Bytes) (outputLen : Nat) : Bytes :=
  hkdfExpand provider kdf (hkdfExtract provider salt inputKeyMaterial) info outputLen

theorem hkdfExpandLoop_length (prk info : Bytes) (rounds : Nat) (i : UInt8) (step : Bytes) (remaining : Nat) :
    (hkdfExpandLoop provider prk info rounds i step remaining).length = min remaining (HASH_OUTPUT_SIZE * rounds) := by
  induction rounds generalizing i step remaining with
  | zero => simp [hkdfExpandLoop]
  | succ rounds ih =>
    rw [hkdfExpandLoop, List.length_append, ih, List.length_take, provider.hmac_length, HASH_OUTPUT_SIZE]
    omega

@[simp] theorem hkdfDeriveSecrets_length (kdf : Hkdf) (inputKeyMaterial salt info : Bytes) (outputLen : Nat) :
    (hkdfDeriveSecrets provider kdf inputKeyMaterial salt info outputLen).length = outputLen := by
  rw [hkdfDeriveSecrets, hkdfExpand, hkdfExpandLoop_length, HASH_OUTPUT_SIZE]
  omega

def emptySalt : Bytes := List.replicate HASH_OUTPUT_SIZE 0

def ascii (text : String) : Bytes := text.toList.map fun letter => UInt8.ofNat letter.toNat

namespace ChainKey

def getBaseMaterial (chainKey : ChainKey) (seed : UInt8) : Bytes := provider.hmacSHA256 chainKey.key [seed]

def getMessageKeys (chainKey : ChainKey) : MessageKeys :=
  let material := hkdfDeriveSecrets provider chainKey.kdf (chainKey.getBaseMaterial provider 0x01) emptySalt
    (ascii "WhisperMessageKeys") 80
  { cipherKey := material.take 32
    macKey := (material.drop 32).take 32
    iv := (material.drop 64).take 16
    counter := chainKey.index
    cipherKey_length := by simp [material]
    macKey_length := by simp [material]
    iv_length := by simp [material] }

def createNext (chainKey : ChainKey) : ChainKey where
  kdf := chainKey.kdf
  key := chainKey.getBaseMaterial provider 0x02
  index := chainKey.index + 1

def advance (chainKey : ChainKey) : Nat → ChainKey
  | 0 => chainKey
  | count + 1 => (chainKey.advance count).createNext provider

theorem advance_createNext (chainKey : ChainKey) (count : Nat) :
    (chainKey.advance provider count).createNext provider = chainKey.advance provider (count + 1) := rfl

theorem advance_advance (chainKey : ChainKey) (first second : Nat) :
    (chainKey.advance provider first).advance provider second = chainKey.advance provider (first + second) := by
  induction second with
  | zero => rfl
  | succ second ih => rw [advance, ih, advance_createNext, Nat.add_assoc]

theorem advance_index (chainKey : ChainKey) (count : Nat) :
    (chainKey.advance provider count).index = chainKey.index + UInt32.ofNat count := by
  induction count with
  | zero => simp [advance]
  | succ count ih => rw [advance, createNext, ih, UInt32.ofNat_add, UInt32.add_assoc]; rfl

end ChainKey

def RootKey.createChain (rootKey : RootKey) (theirRatchetKey : EcPublicKey) (ourRatchetKeyPrivate : EcPrivateKey) :
    RootKey × ChainKey :=
  let derivedSecret := hkdfDeriveSecrets provider rootKey.kdf
    (curveCalculateAgreement provider theirRatchetKey ourRatchetKeyPrivate) rootKey.key (ascii "WhisperRatchet") 64
  (⟨rootKey.kdf, derivedSecret.take 32⟩, ⟨rootKey.kdf, derivedSecret.drop 32, 0⟩)

def ratchetingSessionCalculateDerivedKeys (secret : Bytes) : RootKey × ChainKey :=
  let output := hkdfDeriveSecrets provider .v3 secret emptySalt (ascii "WhisperText") 64
  (⟨.v3, output.take 32⟩, ⟨.v3, output.drop 32, 0⟩)

structure AliceParameters where
  ourIdentityKey : EcKeyPair
  ourBaseKey : EcKeyPair
  theirIdentityKey : EcPublicKey
  theirSignedPreKey : EcPublicKey
  theirOneTimePreKey : Option EcPublicKey
  theirRatchetKey : EcPublicKey
deriving DecidableEq, Repr

structure BobParameters where
  ourIdentityKey : EcKeyPair
  ourSignedPreKey : EcKeyPair
  ourOneTimePreKey : Option EcKeyPair
  ourRatchetKey : EcKeyPair
  theirIdentityKey : EcPublicKey
  theirBaseKey : EcPublicKey
deriving DecidableEq, Repr

def discontinuityData : Bytes := List.replicate 32 0xFF

/-- The secret that `ratcheting_session_alice_initialize` puts together. -/
def AliceParameters.secret (parameters : AliceParameters) : Bytes :=
  discontinuityData ++
    curveCalculateAgreement provider parameters.theirSignedPreKey parameters.ourIdentityKey.privateKey ++
    curveCalculateAgreement provider parameters.theirIdentityKey parameters.ourBaseKey.privateKey ++
    curveCalculateAgreement provider parameters.theirSignedPreKey parameters.ourBaseKey.privateKey ++
    (parameters.theirOneTimePreKey.map fun preKey =>
      curveCalculateAgreement provider preKey parameters.ourBaseKey.privateKey).getD []

def BobParameters.secret (parameters : BobParameters) : Bytes :=
  discontinuityData ++
    curveCalculateAgreement provider parameters.theirIdentityKey parameters.ourSignedPreKey.privateKey ++
    curveCalculateAgreement provider parameters.theirBaseKey parameters.ourIdentityKey.privateKey ++
    curveCalculateAgreement provider parameters.theirBaseKey parameters.ourSignedPreKey.privateKey ++
    (parameters.ourOneTimePreKey.map fun preKey =>
      curveCalculateAgreement provider parameters.theirBaseKey preKey.privateKey).getD []

variable {provider}

theorem RootKey.createChain_comm (rootKey : RootKey) {first second : EcKeyPair} (one : first.Valid provider)
    (two : second.Valid provider) : rootKey.createChain provider first.publicKey second.privateKey =
      rootKey.createChain provider second.publicKey first.privateKey := by
  rw [createChain, createChain, curveCalculateAgreement_comm one two]

end PillarSignal.Libsignal
