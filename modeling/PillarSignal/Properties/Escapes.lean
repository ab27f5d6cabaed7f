import PillarSignal.Properties.PreKeyIds
import PillarSignal.Properties.QueueEntries
import PillarSignal.Properties.AndroidEnvelopes

namespace PillarSignal.Android

open Storage

section StoredIds

def StrayId (p : Platform) (files : Files) : Prop :=
  ∃ data, ProtocolStorage.readObject p .PRE_KEYS_JSON_FILENAME files = .ok data ∧
    ∃ row ∈ data, ∃ e, parseInt row.1 = .error e

theorem foldlM_parseInt_error_iff (data : JSONObject) (keyId : Int) :
    (∃ e, data.foldlM (fun keyId row => do
        let numericKeyIndex ← parseInt row.1
        pure (if keyId < numericKeyIndex then numericKeyIndex else keyId)) keyId = .error e) ↔
      ∃ row ∈ data, ∃ e, parseInt row.1 = .error e := by
  induction data generalizing keyId with
  | nil => simp [pure, Except.pure]
  | cons row data ih =>
    rw [List.foldlM_cons]
    cases read : parseInt row.1 with
    | error e => exact iff_of_true ⟨e, rfl⟩ ⟨row, by simp, e, read⟩
    | ok id =>
      have later := ih (if keyId < id then id else keyId)
      simp only [bind, Except.bind, pure, Except.pure] at later ⊢
      simp [later, read]

theorem getLastPreKeyIndex_error_iff (p : Platform) (files : Files) :
    (∃ e, ProtocolStorage.getLastPreKeyIndex p files = .error e) ↔ StrayId p files := by
  rw [getLastPreKeyIndex_eq, StrayId]
  cases ProtocolStorage.readObject p .PRE_KEYS_JSON_FILENAME files with
  | error e => simp
  | ok data =>
    dsimp only
    rw [foldlM_parseInt_error_iff]
    simp

end StoredIds

namespace SignalClient

variable (p : Platform)

/-- A key or the signature of a bundle breaks the Base64, after all that is read before it could be read. -/
def BundleBreaks (responseJSONO firstDevice : JSONObject) : Prop :=
  ∃ preKeyJSONO, OrgJson.getJSONObject firstDevice "preKey" = .ok preKeyJSONO ∧
  ∃ preKeyText, p.json.getString preKeyJSONO "publicKey" = .ok preKeyText ∧ (BreaksBase64 p preKeyText ∨
  ∃ preKeyPublic, decodePoint p preKeyText = .ok preKeyPublic ∧
  ∃ signedPreKeyJSONO, OrgJson.getJSONObject firstDevice "signedPreKey" = .ok signedPreKeyJSONO ∧
  ∃ signature, p.json.getString signedPreKeyJSONO "signature" = .ok signature ∧
  ∃ signedPreKeyText, p.json.getString signedPreKeyJSONO "publicKey" = .ok signedPreKeyText ∧
    (BreaksBase64 p signedPreKeyText ∨
  ∃ signedPreKeyPublic, decodePoint p signedPreKeyText = .ok signedPreKeyPublic ∧
  ∃ identityText, p.json.getString responseJSONO "identityKey" = .ok identityText ∧ (BreaksBase64 p identityText ∨
  ∃ identityKey, decodePoint p identityText = .ok identityKey ∧
  ∃ registrationId, p.json.getInt firstDevice "registrationId" = .ok registrationId ∧
  ∃ deviceId, p.json.getInt firstDevice "deviceId" = .ok deviceId ∧
  ∃ preKeyId, p.json.getInt preKeyJSONO "keyId" = .ok preKeyId ∧
  ∃ signedPreKeyId, p.json.getInt signedPreKeyJSONO "keyId" = .ok signedPreKeyId ∧ BreaksBase64 p signature)))

variable {p}

theorem uncaught_decodeBase64 {caught : Thrown → Bool} (taken : ∀ e ∈ [.io, .illegalArgument, .unexpected], caught e = (e == .io))
    (text : String) : Uncaught caught (decodeBase64 p text) ↔ BreaksBase64 p text := by
  cases decoded : p.texts.bytes.decode text with
  | none =>
    obtain ⟨failed, breaks⟩ := decodeBase64_of_none decoded
    rw [failed, breaks, uncaught_error, taken _ (Base64.thrown_mem text)]
    simp
  | some bytes =>
    rw [decodeBase64_of_some decoded, BreaksBase64, decoded]
    simp

theorem uncaught_decodePoint (text : String) : Uncaught caughtRebuilding (decodePoint p text) ↔ BreaksBase64 p text := by
  have reading := @uncaught_decodeBase64 p caughtRebuilding (by decide) text
  rw [decodePoint]
  dsimp only [bind]
  rw [uncaught_bind, reading]
  cases p.texts.publicKey.decode text <;> simp [caughtRebuilding]

theorem parseBundle_uncaught_iff (responseJSONO firstDevice : JSONObject) :
    Uncaught caughtRebuilding (parseBundle p responseJSONO firstDevice) ↔ BundleBreaks p responseJSONO firstDevice := by
  have strings := fun object name => iff_false_intro (p.json.not_uncaught_getString (by decide : caughtRebuilding .json = true) object name)
  have numbers := fun object name => iff_false_intro (p.json.not_uncaught_getInt (by decide : caughtRebuilding .json = true) object name)
  have objects := fun object name => iff_false_intro (OrgJson.not_uncaught_getJSONObject (by decide : caughtRebuilding .json = true) object name)
  have signatures := @uncaught_decodeBase64 p caughtRebuilding (by decide)
  unfold parseBundle BundleBreaks
  simp only [bind, pure, Except.pure, uncaught_bind, strings, numbers, objects, signatures, uncaught_decodePoint, false_or,
    not_uncaught_ok, and_false, exists_false, or_false]

theorem requestPreKeys_uncaught_iff (username : String) (response : Response) (process : Process) (files : Files) :
    (∃ e, (requestPreKeys p username (.answered response) process files).1 = .failed e ∧ caughtRebuilding e = false) ↔
      ∃ responseJSONO device, firstDevice p (.answered response) = some (responseJSONO, device) ∧
        (BundleBreaks p responseJSONO device ∨ ∃ bundle, parseBundle p responseJSONO device = .ok bundle ∧
          Uncaught caughtRebuilding (process bundle)) := by
  cases reached : firstDevice p (.answered response) with
  | none =>
    have refused := (requestPreKeys_of_no_device reached username process files).2
    refine iff_of_false ?_ (by simp)
    rintro ⟨e, failed, uncaught⟩
    rw [failed] at refused
    simp only [List.mem_cons, reduceCtorEq, Rebuild.failed.injEq, List.not_mem_nil, or_false, false_or] at refused
    subst refused
    cases uncaught
  | some pair =>
    obtain ⟨responseJSONO, device⟩ := pair
    have escapes := uncaught_bind caughtRebuilding (parseBundle p responseJSONO device) process
    rw [parseBundle_uncaught_iff] at escapes
    rw [requestPreKeys_of_device reached]
    simp only [rebuildSession_failed_iff, Option.some.injEq, Prod.mk.injEq, existsAndEq, true_and]
    exact escapes

/-- An entry of the queue ends in an exception that the loop does not take: its text breaks the Base64, or its envelope
    is decrypted, and the attempts or the clock end in such a one. -/
def EntryEscapes (p : Platform) (username messageTag : String) (decodeAndSave : Bool) (files : Files) (draw : Draw)
    (entry : Json) : Prop :=
  Breaks p username messageTag decodeAndSave files entry ∨
    ((pulledEnvelope p username messageTag decodeAndSave entry files).isSome = true ∧
      ∃ e, draw.thrown true = some e ∧ e ∉ [.json, .io, .noSession, .nullPointer])

def PushEscapes (p : Platform) (receivedMessage : List Char) (draw : Draw) (files : Files) : Prop :=
  (∃ message text source, p.json.newJSONObject receivedMessage = .ok message ∧
      p.json.getString message "legacyMessage" = .ok text ∧ p.json.getString message "source" = .ok source ∧
      ProtocolStorage.containsSession p ⟨source, 1⟩ files = true ∧ text ≠ "" ∧ BreaksBase64 p text) ∨
    ((pushedEnvelope p receivedMessage files).isSome = true ∧
      ∃ e, draw.thrown false = some e ∧ e ∉ [.json, .io, .noSession])

section Pulled

variable {username messageTag : String} {decodeAndSave : Bool}

theorem not_breaks_of_passes {files : Files} {entry : Json}
    (passes : Passes p username messageTag decodeAndSave files entry) :
    ¬ Breaks p username messageTag decodeAndSave files entry := by
  cases entry with
  | obj message =>
    rintro ⟨text, sent, named, _, tagged, session, saving, written, undecoded, _⟩
    obtain ⟨other, source, same, origin, chosen⟩ := passes
    cases sent.symm.trans same
    cases named.symm.trans origin
    have decoded := (chosen tagged).2 rfl session saving written
    rw [undecoded] at decoded
    cases decoded
  | _ => exact id

theorem pullEntry_escapes_iff (entry : Json) (draw : Draw) (state : Pull) :
    (∃ e, (pullEntry p username messageTag decodeAndSave entry draw state).1 = .error e ∧
        e ∉ [.json, .io, .noSession, .nullPointer]) ↔
      EntryEscapes p username messageTag decodeAndSave state.files draw entry := by
  unfold EntryEscapes
  have entered := @pullEntry_entered p username messageTag decodeAndSave entry draw state
  generalize pullEntry p username messageTag decodeAndSave entry draw state = outcome at entered
  cases entered with
  | skipped unread passes nothing => simp [not_breaks_of_passes passes, nothing]
  | stopped unread e blocked nothing breaks => simp [breaks, nothing]
  | opened unread envelope passes pulled =>
    have whole := not_breaks_of_passes passes
    rcases @pullEnvelope_thrown p envelope messageTag draw { state with unread } with
      ⟨handled, done, _, returns⟩ | ⟨e, failed, _, thrown⟩
    · simp [done, whole, returns]
    · simp [failed, whole, pulled, thrown]

theorem getContactMessages_unsettled_iff (response : Response) (draws : Nat → Draw) (files : Files) :
    (getContactMessages p username messageTag decodeAndSave (.answered response) draws files).settlement = none ↔
      Comes p username messageTag decodeAndSave draws (EntryEscapes p username messageTag decodeAndSave) 0
        (queueOf p response) files := by
  rw [← @pullLoop_comes_iff p username messageTag decodeAndSave (· ∉ [.json, .io, .noSession, .nullPointer]) _ draws
    pullEntry_escapes_iff 0 (queueOf p response) ⟨files, [], [], [], []⟩]
  rw [getContactMessages]
  dsimp only [queueOf]
  generalize pullLoop p username messageTag decodeAndSave draws 0 _ _ = looped
  obtain ⟨ended, state⟩ := looped
  cases ended with
  | none => simp [pullSettlement]
  | some e => simp [pullSettlement]

end Pulled

theorem pushEnvelope_unsettled_iff (envelope : Envelope) (tag : String) (draw : Draw) (files : Files) :
    (pushEnvelope p envelope tag draw files).settlement = none ↔
      ∃ e, draw.thrown false = some e ∧ e ∉ [.json, .io, .noSession] := by
  rw [pushEnvelope_settlement]
  rcases @processEnvelope_thrown p false envelope tag draw files with ⟨message, done, returns⟩ | ⟨e, failed, thrown⟩
  · rw [done, returns]
    simp
  · rw [failed, thrown]
    simp [pushSettlement]

theorem newJSONObject_error {text : List Char} {e : Thrown} (failed : p.json.newJSONObject text = .error e) : e = .json := by
  rw [OrgJson.newJSONObject] at failed
  split at failed
  · cases failed
  · exact (Except.error.inj failed).symm

theorem decryptSignalMessage_unsettled_iff (messageTag : String) (receivedMessage : List Char) (draw : Draw)
    (files : Files) :
    (decryptSignalMessage p messageTag receivedMessage draw files).settlement = none ↔
      PushEscapes p receivedMessage draw files := by
  unfold decryptSignalMessage PushEscapes pushedEnvelope
  dsimp only [bind, Except.bind, pure, Except.pure]
  have caught : pushSettlement .json ≠ none := by decide
  cases parsed : p.json.newJSONObject receivedMessage with
  | error e =>
    cases newJSONObject_error parsed
    simp [caught]
  | ok message =>
    dsimp only
    cases sent : p.json.getString message "legacyMessage" with
    | error e =>
      cases p.json.getString_error sent
      simp [caught, sent]
    | ok messageString =>
      dsimp only
      cases named : p.json.getString message "source" with
      | error e =>
        cases p.json.getString_error named
        simp [caught, named]
      | ok source =>
        dsimp only
        split
        · rename_i chosen
          obtain ⟨session, written⟩ := chosen
          cases decoded : p.texts.bytes.decode messageString with
          | none =>
            obtain ⟨failed, breaks⟩ := decodeBase64_of_none decoded
            have uncaught : pushSettlement (Base64.thrown messageString) = none ↔ BreaksBase64 p messageString := by
              rw [breaks, pushSettlement, ite_eq_right_iff]
              simp only [reduceCtorEq, imp_false]
              exact Base64.thrown_notMem_iff (by decide) (by decide) (by decide) messageString
            simp [failed, sent, named, session, written, uncaught]
          | some ciphertext =>
            rw [decodeBase64_of_some decoded]
            dsimp only
            rw [pushEnvelope_unsettled_iff]
            simp [sent, named, session, written, BreaksBase64, decoded]
        · rename_i skipped
          simp only [sent, named, Except.ok.injEq, existsAndEq, true_and]
          refine iff_of_false (by simp) ?_
          rintro (⟨session, written, _⟩ | ⟨present, _⟩)
          · exact skipped ⟨session, written⟩
          · cases present

end SignalClient
end PillarSignal.Android
