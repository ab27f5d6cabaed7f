import PillarSignal.Android.Bridge

namespace PillarSignal.Android

namespace LegacyMessage

open Storage SignalingEnvelope

variable {p : Platform} {ciphers : Ciphers} {text : String} {body signalingKey plaintext : Bytes}

/-- The last ten bytes are the mac of those before them. -/
def MacHolds (ciphers : Ciphers) (signalingKey body : Bytes) : Prop :=
  11 ≤ body.length ∧ body.drop (body.length - 10) = mac ciphers signalingKey (body.take (body.length - 10))

instance (signalingKey body : Bytes) : Decidable (MacHolds ciphers signalingKey body) :=
  inferInstanceAs (Decidable (_ ∧ _))

def ciphertextOf (body : Bytes) : Bytes := (body.drop 17).take (body.length - 27)

def opened (ciphers : Ciphers) (signalingKey body : Bytes) : Option Bytes :=
  ciphers.decryptCBC (cipherKey signalingKey) ((body.drop 1).take 16) (ciphertextOf body)

theorem getCipherKey_eq (keyed : p.texts.bytes.decode text = some signalingKey) (long : 32 ≤ signalingKey.length) :
    getCipherKey p (some text) = .ok (cipherKey signalingKey) := by
  rw [getCipherKey, signalingKeyBytes, SignalClient.decodeBase64, keyed]
  exact if_pos (by simpa [CIPHER_KEY_SIZE] using long)

theorem getMacKey_eq (keyed : p.texts.bytes.decode text = some signalingKey) (long : 52 ≤ signalingKey.length) :
    getMacKey p (some text) = .ok (macKey signalingKey) := by
  rw [getMacKey, signalingKeyBytes, SignalClient.decodeBase64, keyed]
  exact if_pos (by simpa [CIPHER_KEY_SIZE, MAC_KEY_SIZE] using long)

theorem verifyMac_eq (body signalingKey : Bytes) :
    verifyMac ciphers body (macKey signalingKey) = if MacHolds ciphers signalingKey body then .ok () else .error .io := by
  have size : MAC_SIZE = 10 := rfl
  rw [verifyMac, size]
  by_cases short : body.length < 10 + 1
  · have broken : ¬ MacHolds ciphers signalingKey body := fun holds => absurd holds.1 (by omega)
    rw [if_pos short, if_neg broken]
  · rw [if_neg short]
    by_cases same : mac ciphers signalingKey (body.take (body.length - 10)) = body.drop (body.length - 10)
    · have holds : MacHolds ciphers signalingKey body := ⟨by omega, same.symm⟩
      rw [if_pos holds]
      exact if_pos same
    · have broken : ¬ MacHolds ciphers signalingKey body := fun holds => same holds.2.symm
      rw [if_neg broken]
      exact if_neg same

/-- With a whole key, all that is left is the mac, the lengths and AES. -/
theorem getBytes_eq (keyed : p.texts.bytes.decode text = some signalingKey) (long : 52 ≤ signalingKey.length)
    (body : Bytes) :
    getBytes p ciphers body (some text) =
      if MacHolds ciphers signalingKey body then getPlaintext ciphers body (cipherKey signalingKey) else .error .io := by
  rw [getBytes, getCipherKey_eq keyed (by omega), getMacKey_eq keyed long]
  simp only [bind, Except.bind, verifyMac_eq]
  by_cases holds : MacHolds ciphers signalingKey body
  · rw [if_pos holds, if_pos holds]
  · rw [if_neg holds, if_neg holds]

theorem getPlaintext_eq (enough : 27 ≤ body.length) (signalingKey : Bytes) :
    getPlaintext ciphers body (cipherKey signalingKey) =
      doFinal ciphers (cipherKey signalingKey) ((body.drop 1).take 16) (ciphertextOf body) := by
  have vector : arraycopy body IV_OFFSET IV_LENGTH = .ok ((body.drop 1).take 16) :=
    if_pos (show 1 + 16 ≤ body.length by omega)
  have sizes : VERSION_LENGTH + IV_LENGTH + MAC_SIZE = 27 := rfl
  have rest : body.length - VERSION_LENGTH - IV_LENGTH - MAC_SIZE = body.length - 27 := by
    simp only [VERSION_LENGTH, IV_LENGTH, MAC_SIZE]
    omega
  rw [getPlaintext, vector, sizes, rest]
  simp only [bind, Except.bind]
  rw [if_neg (by omega)]
  rfl

theorem getPlaintext_short (short : body.length < 27) (cipherKey : Bytes) :
    getPlaintext ciphers body cipherKey = .error (if 17 ≤ body.length then .illegalArgument else .unexpected) := by
  have sizes : VERSION_LENGTH + IV_LENGTH + MAC_SIZE = 27 := rfl
  rw [getPlaintext, arraycopy, sizes, show IV_OFFSET + IV_LENGTH = 17 from rfl]
  by_cases vector : 17 ≤ body.length
  · simp only [if_pos vector, bind, Except.bind, if_pos short]
  · simp only [if_neg vector, bind, Except.bind]

theorem doFinal_eq_ok_iff {cipherKey iv bytes : Bytes} :
    doFinal ciphers cipherKey iv bytes = .ok plaintext ↔ ciphers.decryptCBC cipherKey iv bytes = some plaintext := by
  unfold doFinal
  cases ciphers.decryptCBC cipherKey iv bytes <;> simp

theorem getBytes_of_no_key (body : Bytes) : getBytes p ciphers body none = .error .nullPointer := rfl

theorem getBytes_of_undecoded (undecoded : p.texts.bytes.decode text = none) (body : Bytes) :
    getBytes p ciphers body (some text) = .error (Base64.thrown text) := by
  rw [getBytes, getCipherKey, signalingKeyBytes, SignalClient.decodeBase64, undecoded]
  rfl

theorem getBytes_of_short_key (keyed : p.texts.bytes.decode text = some signalingKey) (short : signalingKey.length < 52)
    (body : Bytes) : getBytes p ciphers body (some text) = .error .unexpected := by
  have copied : arraycopy signalingKey CIPHER_KEY_SIZE MAC_KEY_SIZE = .error .unexpected :=
    if_neg (show ¬ 32 + 20 ≤ signalingKey.length by omega)
  rw [getBytes, getCipherKey, getMacKey, signalingKeyBytes, SignalClient.decodeBase64, keyed]
  simp only [bind, Except.bind, copied]
  rw [arraycopy]
  split
  · rename_i e failed
    split at failed <;> cases failed
    rfl
  · rfl

theorem getBytes_eq_ok_iff (key : Option String) (body plaintext : Bytes) :
    getBytes p ciphers body key = .ok plaintext ↔
      ∃ text signalingKey, key = some text ∧ p.texts.bytes.decode text = some signalingKey ∧
        52 ≤ signalingKey.length ∧ 27 ≤ body.length ∧ MacHolds ciphers signalingKey body ∧
        opened ciphers signalingKey body = some plaintext := by
  cases key with
  | none => simp [getBytes_of_no_key]
  | some text =>
    cases keyed : p.texts.bytes.decode text with
    | none => simp [getBytes_of_undecoded keyed, keyed]
    | some signalingKey =>
      by_cases long : 52 ≤ signalingKey.length
      · rw [getBytes_eq keyed long]
        by_cases holds : MacHolds ciphers signalingKey body
        · rw [if_pos holds]
          by_cases enough : 27 ≤ body.length
          · rw [getPlaintext_eq enough, doFinal_eq_ok_iff, ← opened]
            simp [keyed, long, enough, holds]
          · rw [getPlaintext_short (by omega)]
            simp [enough]
        · simp [keyed, holds]
      · rw [getBytes_of_short_key keyed (by omega)]
        simp [keyed, long]

/-- Long enough, and with the mac of the signaling key at the end. -/
def Sealed (p : Platform) (ciphers : Ciphers) (key : Option String) (body : Bytes) : Prop :=
  ∃ text signalingKey, key = some text ∧ p.texts.bytes.decode text = some signalingKey ∧ 27 ≤ body.length ∧
    body.drop (body.length - 10) = mac ciphers signalingKey (body.take (body.length - 10))

def Formatted (p : Platform) (ciphers : Ciphers) (key : Option String) (body : Bytes) : Prop :=
  Sealed p ciphers key body ∧ body.head? = some SUPPORTED_VERSION

/-- What is sealed is opened again, and what is opened is sealed; it is of the format if its version happens to be the
    supported one. -/
theorem opened_envelopes_are_formatted_iff (p : Platform) (ciphers : Ciphers) :
    (∀ text signalingKey version iv plaintext, p.texts.bytes.decode text = some signalingKey → signalingKey.length = 52 →
      iv.length = 16 →
      getBytes p ciphers (sealed ciphers signalingKey version iv plaintext) (some text) = .ok plaintext) ∧
    ∀ key body plaintext, getBytes p ciphers body key = .ok plaintext →
      Sealed p ciphers key body ∧ (Formatted p ciphers key body ↔ body.head? = some SUPPORTED_VERSION) := by
  constructor
  · intro text signalingKey version iv plaintext keyed size sixteen
    obtain ⟨enough, vector, ciphertext⟩ := sealed_parts ciphers signalingKey version sixteen plaintext
    rw [getBytes_eq_ok_iff]
    refine ⟨text, signalingKey, rfl, keyed, by omega, enough, ⟨by omega, ?_⟩, ?_⟩
    · exact (sealed_authentic signalingKey version sixteen plaintext).mac_eq
    · rw [opened, ciphertextOf, vector, ciphertext]
      exact ciphers.decrypt_encrypt _ _ _ (by rw [cipherKey, List.length_take]; omega) sixteen
  · intro key body plaintext returned
    obtain ⟨text, signalingKey, named, keyed, _, enough, holds, _⟩ := (getBytes_eq_ok_iff key body plaintext).mp returned
    have isSealed : Sealed p ciphers key body := ⟨text, signalingKey, named, keyed, enough, holds.2⟩
    exact ⟨isSealed, fun formatted => formatted.2, fun version => ⟨isSealed, version⟩⟩

section Versions

def sampleVector : Bytes := List.replicate 16 2

theorem version_one_is_opened :
    getBytes .plain plainCiphers (sealed plainCiphers sampleSignalingKey 1 sampleVector [104, 105])
        (some (Platform.plain.texts.bytes.encode sampleSignalingKey)) = .ok [104, 105] ∧
      Formatted .plain plainCiphers (some (Platform.plain.texts.bytes.encode sampleSignalingKey))
        (sealed plainCiphers sampleSignalingKey 1 sampleVector [104, 105]) := by
  obtain ⟨opens, formatted⟩ := opened_envelopes_are_formatted_iff .plain plainCiphers
  have opened := opens (Platform.plain.texts.bytes.encode sampleSignalingKey) sampleSignalingKey 1 sampleVector [104, 105]
    (Platform.plain.texts.bytes.decode_encode _) rfl rfl
  exact ⟨opened, (formatted _ _ _ opened).2.mpr rfl⟩

theorem version_seven_is_opened :
    getBytes .plain plainCiphers (sealed plainCiphers sampleSignalingKey 7 sampleVector [104, 105])
        (some (Platform.plain.texts.bytes.encode sampleSignalingKey)) = .ok [104, 105] ∧
      (sealed plainCiphers sampleSignalingKey 7 sampleVector [104, 105]).head? ≠ some SUPPORTED_VERSION := by
  decide +kernel

end Versions

/-- The key is there, is Base64 or refused as such, and has all its bytes; and an envelope with a valid mac has all its
    parts, and whole blocks unless AES takes it as it is. -/
def KeySettles (p : Platform) (ciphers : Ciphers) (body : Bytes) : Option String → Prop
  | none => False
  | some text =>
    match p.texts.bytes.decode text with
    | none => Base64.Catchable text
    | some signalingKey => 52 ≤ signalingKey.length ∧ (MacHolds ciphers signalingKey body →
        27 ≤ body.length ∧ (opened ciphers signalingKey body = none → (ciphertextOf body).length % 16 = 0))

/-- The body of the message is Base64, and then the key decides, or it is refused as such. -/
def Settles (p : Platform) (ciphers : Ciphers) (receivedBody : String) (key : Option String) : Prop :=
  match p.texts.bytes.decode receivedBody with
  | none => Base64.Catchable receivedBody
  | some body => KeySettles p ciphers body key

theorem doFinal_of_none {cipherKey iv bytes : Bytes} (failed : ciphers.decryptCBC cipherKey iv bytes = none) :
    doFinal ciphers cipherKey iv bytes = .error (if bytes.length % 16 = 0 then .io else .unexpected) := by
  simp only [doFinal, failed]

theorem getPlaintext_settles_iff (signalingKey body : Bytes) :
    ¬ Uncaught (· == .io) (getPlaintext ciphers body (cipherKey signalingKey)) ↔
      27 ≤ body.length ∧ (opened ciphers signalingKey body = none → (ciphertextOf body).length % 16 = 0) := by
  by_cases enough : 27 ≤ body.length
  · rw [getPlaintext_eq enough]
    cases decrypted : opened ciphers signalingKey body with
    | none =>
      rw [doFinal_of_none decrypted]
      by_cases whole : (ciphertextOf body).length % 16 = 0
      · simp [whole, enough]
      · simp [whole]
    | some plaintext =>
      rw [doFinal_eq_ok_iff.mpr decrypted]
      simp [enough]
  · rw [getPlaintext_short (by omega)]
    split <;> simp [enough]

theorem getBytes_settles_iff (body : Bytes) (key : Option String) :
    ¬ Uncaught (· == .io) (getBytes p ciphers body key) ↔ KeySettles p ciphers body key := by
  cases key with
  | none => simp [getBytes_of_no_key, KeySettles]
  | some text =>
    cases keyed : p.texts.bytes.decode text with
    | none =>
      rw [getBytes_of_undecoded keyed, KeySettles]
      simp [keyed, ← Base64.thrown_eq_io_iff text]
    | some signalingKey =>
      rw [KeySettles]
      simp only [keyed]
      by_cases long : 52 ≤ signalingKey.length
      · rw [getBytes_eq keyed long, ← getPlaintext_settles_iff]
        by_cases holds : MacHolds ciphers signalingKey body
        · simp [holds, long]
        · simp [holds, long]
      · rw [getBytes_of_short_key keyed (by omega)]
        simp [long]

theorem decryptReceivedBody_settles_iff (receivedBody : String) (files : Files) :
    ¬ Uncaught (· == .io) (RNSignalClientModule.decryptReceivedBody p ciphers receivedBody files) ↔
      Settles p ciphers receivedBody (ProtocolStorage.getSignalingKey p files) := by
  rw [Settles, RNSignalClientModule.decryptReceivedBody]
  dsimp only [bind]
  rw [uncaught_bind]
  cases decoded : p.texts.bytes.decode receivedBody with
  | none =>
    rw [(SignalClient.decodeBase64_of_none decoded).1]
    simp [← Base64.thrown_eq_io_iff receivedBody]
  | some body =>
    rw [SignalClient.decodeBase64_of_some decoded]
    dsimp only
    rw [← getBytes_settles_iff]
    simp [uncaught_bind, pure, Except.pure]

end LegacyMessage

open Storage LegacyMessage Reaction

theorem rejectingOnly_io (result : Except Thrown String) (files : Files) (settlement : Settlement) :
    rejectingOnly (· == .io) (result.bind fun text => settled (.resolve text)) files = telling [settlement] files ↔
      (∃ text, result = .ok text ∧ settlement = .resolve text) ∨ (result = .error .io ∧ settlement = nativeFailed .io) := by
  cases result with
  | ok text => simp [Except.bind, settled, rejectingOnly, telling, eq_comm]
  | error e =>
    by_cases io : e = .io
    · subst io
      simp [Except.bind, rejectingOnly, telling, eq_comm]
    · simp [Except.bind, rejectingOnly, io, telling, stopping]

/-- The promise of `decryptReceivedBody` is resolved with the plaintext's Base64 or rejected with an `IOException`
    exactly when the body and the key settle; otherwise an exception that nothing catches ends the app. -/
theorem bad_envelopes_are_rejected_iff (http : OkHttp) (p : Platform) (ciphers : Ciphers) (module : RNSignalClientModule)
    (receivedBody : String) :
    ((∃ body plaintext, p.texts.bytes.decode receivedBody = some body ∧
        getBytes p ciphers body (ProtocolStorage.getSignalingKey p module.files) = .ok plaintext ∧
        (Method.decryptReceivedBody receivedBody).start http p ciphers module =
          telling [.resolve (p.texts.bytes.encode plaintext)] module.files) ∨
      (Method.decryptReceivedBody receivedBody).start http p ciphers module = telling [nativeFailed .io] module.files) ↔
    Settles p ciphers receivedBody (ProtocolStorage.getSignalingKey p module.files) := by
  have started : (Method.decryptReceivedBody receivedBody).start http p ciphers module =
      rejectingOnly (· == .io) ((RNSignalClientModule.decryptReceivedBody p ciphers receivedBody module.files).bind
        fun text => settled (.resolve text)) module.files := rfl
  simp only [started, rejectingOnly_io, ← decryptReceivedBody_settles_iff]
  simp only [RNSignalClientModule.decryptReceivedBody, SignalClient.decodeBase64, bind, Except.bind]
  cases decoded : p.texts.bytes.decode receivedBody with
  | none => simp [nativeFailed]
  | some body =>
    dsimp only
    cases returned : getBytes p ciphers body (ProtocolStorage.getSignalingKey p module.files) with
    | error e => simp [nativeFailed]
    | ok plaintext => simp [returned, pure, Except.pure]

section Texts

def Platform.base64 : Platform := { Platform.plain with texts := { Platform.plain.texts with bytes := Base64.codec } }

def keyedModule (key : String) : RNSignalClientModule :=
  ⟨some ⟨"https://signal", "token"⟩, "alice", ProtocolStorage.storeSignalingKey .base64 key noFiles⟩

def withMac (data : Bytes) : Bytes := data ++ SignalingEnvelope.mac paddingCiphers sampleSignalingKey data

def received (module : RNSignalClientModule) (body : String) : TaskReaction :=
  (Method.decryptReceivedBody body).start Method.lenient .base64 paddingCiphers module

/-- The app ends without a key and with one that is too short, for valid macs behind six bytes, behind sixteen, and
    behind a ciphertext of five bytes, and for texts that are too short or that end in U+007F, as the body or as the key;
    a text with another character that is not of the alphabet is rejected, and an envelope that was sealed is opened. -/
theorem bad_envelopes_end_the_app :
    let key := Base64.encodeBytes sampleSignalingKey
    let sealed := SignalingEnvelope.sealed paddingCiphers sampleSignalingKey 1 sampleVector [104, 105]
    (received Method.initialised "AAAA").stops = true ∧ (received (keyedModule "AAAA") "AAAA").stops = true ∧
      (received (keyedModule key) (Base64.encodeBytes (withMac (List.replicate 6 1)))).stops = true ∧
      (received (keyedModule key) (Base64.encodeBytes (withMac (List.replicate 16 1)))).stops = true ∧
      (received (keyedModule key) (Base64.encodeBytes (withMac (List.replicate 22 1)))).stops = true ∧
      (received (keyedModule key) "AA=").stops = true ∧ (received (keyedModule key) "AAAA\x7f").stops = true ∧
      (received (keyedModule "AAAA\x7f") "AAAA").stops = true ∧
      (received (keyedModule key) "AAAA~").told = [nativeFailed .io] ∧
      (received (keyedModule key) (Base64.encodeBytes sealed)).told = [.resolve "aGk="] := by
  decide +kernel

end Texts
end PillarSignal.Android
