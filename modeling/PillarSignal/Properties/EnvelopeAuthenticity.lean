import PillarSignal.Ios.LegacyMessage

namespace PillarSignal.Ios

open LegacyMessage SignalingEnvelope

def Opens (ciphers : Ciphers) (signalingKey payload : Bytes) : Prop :=
  27 ≤ payload.length ∧ payload.length < SIZE_MAX - 27 ∧
    (ciphers.decryptCBC (cipherKey signalingKey) ((payload.drop 1).take 16)
      ((payload.drop 17).take (payload.length - 27))).isSome

variable {foundation : Foundation}

theorem opens_iff {body signalingKeyString : String} {payload signalingKey : Bytes}
    (decoded : foundation.dataFromBase64String body = some payload)
    (keyed : foundation.dataFromBase64String signalingKeyString = some signalingKey)
    (long : 52 ≤ signalingKey.length) :
    (∃ plaintext, decryptAppleMessagePayload foundation body signalingKeyString = .ok (some plaintext)) ↔
      Opens foundation.ciphers signalingKey payload := by
  by_cases sized : 27 ≤ payload.length ∧ payload.length < SIZE_MAX - 27
  · rw [decryptAppleMessagePayload_eq decoded keyed long sized.1 sized.2, Opens, Option.isSome_iff_exists]
    simp only [sized, true_and, Except.ok.injEq]
  · constructor
    · rintro ⟨plaintext, returned⟩
      exact absurd returned (decryptAppleMessagePayload_refused decoded (by omega) plaintext)
    · rintro ⟨enough, fits, _⟩
      exact absurd ⟨enough, fits⟩ sized

/-- A plaintext comes out of authentic envelopes only exactly when AES refuses all others; what is
    sealed comes out again. -/
theorem plaintext_is_authentic_iff (foundation : Foundation) (body signalingKeyString : String) (signalingKey : Bytes) :
    (∀ payload : Bytes, foundation.dataFromBase64String body = some payload →
      foundation.dataFromBase64String signalingKeyString = some signalingKey → 52 ≤ signalingKey.length →
      ((∀ plaintext, decryptAppleMessagePayload foundation body signalingKeyString = .ok (some plaintext) →
          Authentic foundation.ciphers signalingKey payload) ↔
        ¬ Opens foundation.ciphers signalingKey payload ∨ Authentic foundation.ciphers signalingKey payload)) ∧
    ∀ (version : UInt8) (iv plaintext : Bytes), iv.length = 16 →
      foundation.dataFromBase64String body = some (sealed foundation.ciphers signalingKey version iv plaintext) →
      foundation.dataFromBase64String signalingKeyString = some signalingKey → 52 ≤ signalingKey.length →
      (sealed foundation.ciphers signalingKey version iv plaintext).length < SIZE_MAX - 27 →
      decryptAppleMessagePayload foundation body signalingKeyString = .ok (some plaintext) := by
  constructor
  · intro payload decoded keyed long
    rw [← opens_iff decoded keyed long, ← imp_iff_not_or]
    exact ⟨fun only ⟨plaintext, returned⟩ => only plaintext returned,
      fun only plaintext returned => only ⟨plaintext, returned⟩⟩
  · intro version iv plaintext sixteen decoded keyed long fits
    obtain ⟨enough, vector, ciphertext⟩ := sealed_parts foundation.ciphers signalingKey version sixteen plaintext
    rw [decryptAppleMessagePayload_eq decoded keyed long enough fits, vector, ciphertext,
      foundation.ciphers.decrypt_encrypt _ _ _ _ sixteen]
    rw [cipherKey, List.length_take]
    omega

section Forged

def sampleEnvelope : Bytes := sealed plainCiphers sampleSignalingKey 1 (List.replicate 16 2) [104, 105]

def forgedEnvelope : Bytes := sampleEnvelope.take 19 ++ List.replicate 10 9

def sampleFoundation : Foundation where
  ciphers := plainCiphers
  dataFromBase64String text :=
    if text = "key" then some sampleSignalingKey else if text = "envelope" then some sampleEnvelope else some forgedEnvelope
  asserts := true

theorem sealed_envelope_opens :
    (∀ plaintext, decryptAppleMessagePayload sampleFoundation "envelope" "key" = .ok (some plaintext) →
      Authentic plainCiphers sampleSignalingKey sampleEnvelope) ∧
    decryptAppleMessagePayload sampleFoundation "envelope" "key" = .ok (some [104, 105]) :=
  ⟨((plaintext_is_authentic_iff sampleFoundation "envelope" "key" sampleSignalingKey).1 sampleEnvelope rfl rfl (by decide)).mpr
      (.inr (sealed_authentic _ _ rfl _)),
    (plaintext_is_authentic_iff sampleFoundation "envelope" "key" sampleSignalingKey).2 1 (List.replicate 16 2) [104, 105] rfl rfl
      rfl (by decide) (by decide)⟩

theorem forged_envelope_opens :
    sampleFoundation.dataFromBase64String "forged" = some forgedEnvelope ∧
    sampleFoundation.dataFromBase64String "key" = some sampleSignalingKey ∧ sampleSignalingKey.length = 52 ∧
    ¬ Authentic plainCiphers sampleSignalingKey forgedEnvelope ∧
    decryptAppleMessagePayload sampleFoundation "forged" "key" = .ok (some [104, 105]) := by
  refine ⟨rfl, rfl, rfl, fun authentic => ?_, by decide +kernel⟩
  exact absurd authentic.mac_eq (by decide +kernel)

end Forged
end PillarSignal.Ios
