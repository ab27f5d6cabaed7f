import PillarSignal.Android.MessageFiles
import PillarSignal.Android.Server

namespace PillarSignal.Android

open Storage

def runCall (p : Platform) (address : SignalProtocolAddress) : StoreCall → Files → Files
  | .storeSession record => ProtocolStorage.storeSession p address record
  | .saveIdentity identityKey => ProtocolStorage.saveIdentity p address identityKey
  | .removePreKey preKeyId => ProtocolStorage.removePreKey p preKeyId

/-- One call of `SessionCipher.decrypt`, with its calls of the stores: one that throws may have saved an identity. -/
inductive Attempt where
  | plaintext (bytes : Bytes) (calls : List StoreCall)
  | throws (e : Thrown) (calls : List StoreCall)
deriving DecidableEq, Repr

def Attempt.calls : Attempt → List StoreCall
  | plaintext _ calls | throws _ calls => calls

def Attempt.untrusted : Attempt → Bool
  | throws .untrustedIdentity _ => true
  | _ => false

/-- The outcomes of the decryptions that may be tried on one message: as a `SignalMessage`, as a
    `PreKeySignalMessage`, and as that again once the identity has been removed. -/
structure Attempts where
  signalMessage : Attempt
  preKeySignalMessage : Attempt
  afterReset : Attempt
deriving DecidableEq, Repr

def runCalls (p : Platform) (address : SignalProtocolAddress) (calls : List StoreCall) (files : Files) : Files :=
  calls.foldl (fun files call => runCall p address call files) files

/-- How the decryption of a message ends: with what was decrypted, if anything, and whether it
    was found to be a duplicate, or with an exception that no handler takes. -/
structure Decrypted where
  result : Except Thrown (Option Bytes × Bool)
  files : Files

def caughtFirst (e : Thrown) : Bool :=
  e ∈ [.invalidMessage, .legacyMessage, .duplicateMessage, .untrustedIdentity]

/-- The handlers of the later attempts; only the pull also takes a null pointer. -/
def caughtLater (nullCaught : Bool) (e : Thrown) : Bool :=
  e ∈ [.duplicateMessage, .legacyMessage, .invalidKeyId, .invalidMessage, .invalidVersion, .invalidKey,
    .untrustedIdentity] || (nullCaught && e == .nullPointer)

def isDuplicate (e : Thrown) : Bool := e == .duplicateMessage

def decryptLater (nullCaught duplicate : Bool) (p : Platform) (address : SignalProtocolAddress) (attempt : Attempt)
    (files : Files) : Decrypted :=
  let files := runCalls p address attempt.calls files
  match attempt with
  | .plaintext bytes _ => ⟨.ok (some bytes, duplicate), files⟩
  | .throws e _ => ⟨if caughtLater nullCaught e then .ok (none, duplicate || isDuplicate e) else .error e, files⟩

def decrypt (nullCaught : Bool) (p : Platform) (address : SignalProtocolAddress) (attempts : Attempts)
    (files : Files) : Decrypted :=
  let files := runCalls p address attempts.signalMessage.calls files
  match attempts.signalMessage with
  | .plaintext bytes _ => ⟨.ok (some bytes, false), files⟩
  | .throws e _ =>
    if caughtFirst e then
      if attempts.preKeySignalMessage.untrusted then
        -- "Captured UntrustedIdentityException, session resets"
        decryptLater nullCaught (isDuplicate e) p address attempts.afterReset
          (ProtocolStorage.removeIdentity p address (runCalls p address attempts.preKeySignalMessage.calls files))
      else decryptLater nullCaught (isDuplicate e) p address attempts.preKeySignalMessage files
    else ⟨.error e, files⟩

theorem upkeep_runCalls (p : Platform) (address : SignalProtocolAddress) (calls : List StoreCall) (files : Files) :
    ProtocolStorage.Upkeep p files (runCalls p address calls files) := by
  unfold runCalls
  induction calls generalizing files with
  | nil => exact .refl
  | cons call calls ih =>
    have first : ProtocolStorage.Upkeep p files (runCall p address call files) := by
      cases call with
      | storeSession record => exact ProtocolStorage.Upkeep.refl.storeSession address record
      | saveIdentity identityKey => exact ProtocolStorage.Upkeep.refl.saveIdentity address identityKey
      | removePreKey preKeyId => exact ProtocolStorage.Upkeep.refl.removePreKey preKeyId
    exact first.trans (ih _)

theorem decryptLater_files (nullCaught duplicate : Bool) (p : Platform) (address : SignalProtocolAddress)
    (attempt : Attempt) (files : Files) :
    (decryptLater nullCaught duplicate p address attempt files).files = runCalls p address attempt.calls files := by
  cases attempt <;> rfl

theorem upkeep_decrypt (nullCaught : Bool) (p : Platform) (address : SignalProtocolAddress) (attempts : Attempts)
    (files : Files) : ProtocolStorage.Upkeep p files (decrypt nullCaught p address attempts files).files := by
  have first := upkeep_runCalls p address attempts.signalMessage.calls files
  have later : ∀ duplicate attempt start, ProtocolStorage.Upkeep p start
      (decryptLater nullCaught duplicate p address attempt start).files := by
    intro duplicate attempt start
    rw [decryptLater_files]
    exact upkeep_runCalls ..
  unfold decrypt
  dsimp only
  split
  · exact first
  · split
    · split
      · exact ((first.trans (upkeep_runCalls ..)).trans (ProtocolStorage.Upkeep.refl.removeIdentity address)).trans (later ..)
      · exact first.trans (later ..)
    · exact first

def Attempt.duplicate : Attempt → Bool
  | .plaintext _ _ => false
  | .throws e _ => isDuplicate e

def Attempts.last (attempts : Attempts) : Attempt :=
  if attempts.preKeySignalMessage.untrusted then attempts.afterReset else attempts.preKeySignalMessage

def Attempts.reportedDuplicate (attempts : Attempts) : Bool :=
  match attempts.signalMessage with
  | .plaintext _ _ => false
  | .throws e _ => isDuplicate e || (caughtFirst e && attempts.last.duplicate)

def Attempt.bytes : Attempt → Option Bytes
  | .plaintext bytes _ => some bytes
  | .throws _ _ => none

def Attempts.plaintext (attempts : Attempts) : Option Bytes :=
  match attempts.signalMessage with
  | .plaintext bytes _ => some bytes
  | .throws e _ => if caughtFirst e then attempts.last.bytes else none

/-- The second decryption is tried and finds the identity untrusted, which removes it. -/
def Attempts.resets (attempts : Attempts) : Bool :=
  match attempts.signalMessage with
  | .plaintext _ _ => false
  | .throws e _ => caughtFirst e && attempts.preKeySignalMessage.untrusted

def Attempts.prepare (p : Platform) (address : SignalProtocolAddress) (attempts : Attempts) (files : Files) : Files :=
  let files := runCalls p address attempts.signalMessage.calls files
  if attempts.preKeySignalMessage.untrusted then
    ProtocolStorage.removeIdentity p address (runCalls p address attempts.preKeySignalMessage.calls files)
  else files

theorem decrypt_later {attempts : Attempts} {first : Thrown} {calls : List StoreCall}
    (thrown : attempts.signalMessage = .throws first calls) (caught : caughtFirst first = true) (nullCaught : Bool)
    (p : Platform) (address : SignalProtocolAddress) (files : Files) :
    decrypt nullCaught p address attempts files =
      decryptLater nullCaught (isDuplicate first) p address attempts.last (attempts.prepare p address files) := by
  unfold decrypt Attempts.last Attempts.prepare
  simp only [thrown, caught, if_true]
  cases attempts.preKeySignalMessage.untrusted <;> rfl

/-- Decryptions that fail leave the stores as they are. -/
def Attempts.Quiet (attempts : Attempts) : Prop :=
  ∀ attempt ∈ [attempts.signalMessage, attempts.preKeySignalMessage, attempts.afterReset], attempt.bytes = none →
    attempt.calls = []

instance (attempts : Attempts) : Decidable attempts.Quiet := inferInstanceAs (Decidable (∀ _ ∈ _, _ → _))

theorem Attempt.untrusted_bytes {attempt : Attempt} (untrusted : attempt.untrusted = true) : attempt.bytes = none := by
  cases attempt with
  | plaintext bytes calls => cases untrusted
  | throws e calls => rfl

theorem decrypt_no_plaintext {attempts : Attempts} (nothing : attempts.plaintext = none) (quiet : attempts.Quiet)
    (nullCaught : Bool) (p : Platform) (address : SignalProtocolAddress) (files : Files) :
    (decrypt nullCaught p address attempts files).files =
      if attempts.resets then ProtocolStorage.removeIdentity p address files else files := by
  have silent : ∀ attempt ∈ [attempts.signalMessage, attempts.preKeySignalMessage, attempts.afterReset],
      attempt.bytes = none → ∀ start, runCalls p address attempt.calls start = start := by
    intro attempt member none_read start
    rw [quiet attempt member none_read]
    rfl
  unfold Attempts.plaintext at nothing
  cases first : attempts.signalMessage with
  | plaintext bytes calls =>
    rw [first] at nothing
    cases nothing
  | throws e calls =>
    have begun : runCalls p address attempts.signalMessage.calls files = files :=
      silent _ (by simp) (by rw [first]; rfl) files
    have resets : attempts.resets = (caughtFirst e && attempts.preKeySignalMessage.untrusted) := by
      rw [Attempts.resets, first]
    rw [resets]
    simp only [first] at nothing
    by_cases caught : caughtFirst e = true
    · rw [if_pos caught] at nothing
      rw [decrypt_later first caught, decryptLater_files, Attempts.prepare, begun, caught, Bool.true_and]
      unfold Attempts.last at nothing ⊢
      cases untrusted : attempts.preKeySignalMessage.untrusted with
      | true =>
        simp only [untrusted, if_true] at nothing ⊢
        rw [silent _ (by simp) (Attempt.untrusted_bytes untrusted), silent _ (by simp) nothing]
      | false =>
        simp only [untrusted, Bool.false_eq_true, if_false] at nothing ⊢
        rw [silent _ (by simp) nothing]
    · have unsent : (decrypt nullCaught p address attempts files).files =
          runCalls p address attempts.signalMessage.calls files := by simp [decrypt, first, caught]
      rw [unsent, begun]
      simp [caught]

theorem decryptLater_ok {nullCaught before : Bool} {p : Platform} {address : SignalProtocolAddress}
    {attempt : Attempt} {files : Files} {messageBytes : Option Bytes} {duplicate : Bool}
    (done : (decryptLater nullCaught before p address attempt files).result = .ok (messageBytes, duplicate)) :
    messageBytes = attempt.bytes ∧ duplicate = (before || attempt.duplicate) := by
  cases attempt with
  | plaintext bytes calls =>
    cases done
    simp [Attempt.bytes, Attempt.duplicate]
  | throws e calls =>
    simp only [decryptLater] at done
    split at done
    · cases done
      exact ⟨rfl, rfl⟩
    · cases done

theorem decrypt_ok {nullCaught : Bool} {p : Platform} {address : SignalProtocolAddress} {attempts : Attempts}
    {files : Files} {messageBytes : Option Bytes} {duplicate : Bool}
    (done : (decrypt nullCaught p address attempts files).result = .ok (messageBytes, duplicate)) :
    messageBytes = attempts.plaintext ∧ duplicate = attempts.reportedDuplicate := by
  unfold Attempts.plaintext Attempts.reportedDuplicate
  cases first : attempts.signalMessage with
  | plaintext bytes calls =>
    simp only [decrypt, first] at done
    cases done
    exact ⟨rfl, rfl⟩
  | throws e calls =>
    dsimp only
    by_cases caught : caughtFirst e = true
    · rw [decrypt_later first caught] at done
      rw [if_pos caught, caught, Bool.true_and]
      exact decryptLater_ok done
    · simp only [decrypt, first, caught] at done
      cases done

def Attempts.escaping (nullCaught : Bool) (attempts : Attempts) : Option Thrown :=
  match attempts.signalMessage with
  | .plaintext _ _ => none
  | .throws first _ =>
    if caughtFirst first then
      match attempts.last with
      | .plaintext _ _ => none
      | .throws later _ => if caughtLater nullCaught later then none else some later
    else some first

section Ladder

variable {p : Platform} (nullCaught : Bool) (address : SignalProtocolAddress)

theorem decrypt_result (attempts : Attempts) (files : Files) :
    (decrypt nullCaught p address attempts files).result =
      match attempts.escaping nullCaught with
      | some e => .error e
      | none => .ok (attempts.plaintext, attempts.reportedDuplicate) := by
  cases thrown : attempts.signalMessage with
  | plaintext bytes calls =>
    simp [decrypt, Attempts.escaping, Attempts.plaintext, Attempts.reportedDuplicate, thrown]
  | throws first calls =>
    by_cases caught : caughtFirst first = true
    · rw [decrypt_later thrown caught]
      cases last : attempts.last with
      | plaintext bytes calls =>
        simp [decryptLater, Attempts.escaping, Attempts.plaintext, Attempts.reportedDuplicate, thrown, caught, last,
          Attempt.bytes, Attempt.duplicate]
      | throws later calls =>
        by_cases taken : caughtLater nullCaught later = true <;>
          simp [decryptLater, Attempts.escaping, Attempts.plaintext, Attempts.reportedDuplicate, thrown, caught, last,
            Attempt.bytes, Attempt.duplicate, taken]
    · simp [decrypt, Attempts.escaping, thrown, caught]

theorem decrypt_files (attempts : Attempts) (files : Files) :
    (decrypt nullCaught p address attempts files).files = (decrypt false p address attempts files).files := by
  cases thrown : attempts.signalMessage with
  | plaintext bytes calls => simp [decrypt, thrown]
  | throws first calls =>
    by_cases caught : caughtFirst first = true
    · rw [decrypt_later thrown caught, decrypt_later thrown caught, decryptLater_files, decryptLater_files]
    · simp [decrypt, thrown, caught]

end Ladder

inductive MessageType where
  | MESSAGE
  | WARNING
deriving DecidableEq, Repr

def MessageType.toString : MessageType → String
  | MESSAGE => "message"
  | WARNING => "warning"

inductive MessageStatus where
  | UNDECRYPTABLE_MESSAGE
deriving DecidableEq, Repr

def MessageStatus.toString : MessageStatus → String
  | UNDECRYPTABLE_MESSAGE => "UNDECRYPTABLE_MESSAGE"

def toMessageJSONO (p : Platform) (messageBytes : Option Bytes) (username : String) (device serverTimestamp : Int)
    (currentTimeMillis : Int) : Except Thrown Json := do
  let currentUnixTime ← parseInt (valueOf (currentTimeMillis.tdiv 1000))
  let head := [("username", Json.str username), ("device", .num device), ("serverTimestamp", .num serverTimestamp),
    ("savedTimestamp", .num currentUnixTime)]
  match messageBytes with
  | none => .ok (.obj (head ++ [("content", .str "🔒 You cannot read this message."),
      ("type", .str MessageType.WARNING.toString), ("status", .str MessageStatus.UNDECRYPTABLE_MESSAGE.toString)]))
  | some bytes => .ok (.obj (head ++ [("content", .str (p.newString bytes)), ("type", .str MessageType.MESSAGE.toString)]))

structure Envelope where
  source : String
  timestamp : Int
  ciphertext : Bytes
deriving DecidableEq, Repr

def Envelope.address (envelope : Envelope) : SignalProtocolAddress := ⟨envelope.source, 1⟩

structure Draw where
  attempts : Attempts
  currentTimeMillis : Int
deriving DecidableEq, Repr

/-- An envelope's processing: the history entry made for it, `none` for a duplicate, with the
    files as the decryption left them and as they are in the end. -/
structure Processed where
  result : Except Thrown (Option Json)
  decrypted : Files
  files : Files

def processEnvelope (nullCaught : Bool) (p : Platform) (envelope : Envelope) (tag : String) (draw : Draw)
    (files : Files) : Processed :=
  let decrypted := decrypt nullCaught p envelope.address draw.attempts files
  match decrypted.result with
  | .error e => ⟨.error e, decrypted.files, decrypted.files⟩
  | .ok (messageBytes, duplicate) =>
    if duplicate then ⟨.ok none, decrypted.files, decrypted.files⟩
    else
      match toMessageJSONO p messageBytes envelope.address.name envelope.address.deviceId envelope.timestamp
        draw.currentTimeMillis with
      | .error e => ⟨.error e, decrypted.files, decrypted.files⟩
      | .ok message => ⟨.ok (some message), decrypted.files,
          MessageStorage.storeMessage p envelope.address.name message tag decrypted.files⟩

def Dated (currentTimeMillis : Int) : Prop :=
  -2 ^ 31 ≤ currentTimeMillis.tdiv 1000 ∧ currentTimeMillis.tdiv 1000 < 2 ^ 31

instance (currentTimeMillis : Int) : Decidable (Dated currentTimeMillis) := inferInstanceAs (Decidable (_ ∧ _))

def messageJSONO (p : Platform) (messageBytes : Option Bytes) (username : String)
    (device serverTimestamp savedTimestamp : Int) : Json :=
  .obj ([("username", .str username), ("device", .num device), ("serverTimestamp", .num serverTimestamp),
    ("savedTimestamp", .num savedTimestamp)] ++
    match messageBytes with
    | none => [("content", .str "🔒 You cannot read this message."), ("type", .str MessageType.WARNING.toString),
        ("status", .str MessageStatus.UNDECRYPTABLE_MESSAGE.toString)]
    | some bytes => [("content", .str (p.newString bytes)), ("type", .str MessageType.MESSAGE.toString)])

theorem toMessageJSONO_eq {p : Platform} (messageBytes : Option Bytes) (username : String)
    (device serverTimestamp time : Int) :
    toMessageJSONO p messageBytes username device serverTimestamp time =
      if Dated time then .ok (messageJSONO p messageBytes username device serverTimestamp (time.tdiv 1000))
      else .error .numberFormat := by
  have dated : parseInt (valueOf (time.tdiv 1000)) =
      if Dated time then .ok (time.tdiv 1000) else .error .numberFormat := parseInt_valueOf _
  rw [toMessageJSONO, dated]
  cases messageBytes <;> split <;> rfl

theorem processEnvelope_eq {p : Platform} (nullCaught : Bool) (envelope : Envelope) (tag : String) (draw : Draw)
    (files : Files) :
    let decrypted := (decrypt false p envelope.address draw.attempts files).files
    processEnvelope nullCaught p envelope tag draw files =
      match draw.attempts.escaping nullCaught with
      | some e => ⟨.error e, decrypted, decrypted⟩
      | none =>
        if draw.attempts.reportedDuplicate then ⟨.ok none, decrypted, decrypted⟩
        else
          match toMessageJSONO p draw.attempts.plaintext envelope.source 1 envelope.timestamp draw.currentTimeMillis with
          | .error e => ⟨.error e, decrypted, decrypted⟩
          | .ok message => ⟨.ok (some message), decrypted,
              MessageStorage.storeMessage p envelope.source message tag decrypted⟩ := by
  have kept := @decrypt_files p nullCaught envelope.address draw.attempts files
  rw [processEnvelope, decrypt_result]
  dsimp only
  rw [kept]
  cases draw.attempts.escaping nullCaught <;> rfl

/-- The exception that ends the processing of an envelope: one of the decryptions, or that of a clock that is no `int`. -/
def Draw.thrown (nullCaught : Bool) (draw : Draw) : Option Thrown :=
  match draw.attempts.escaping nullCaught with
  | some e => some e
  | none => if draw.attempts.reportedDuplicate = true ∨ Dated draw.currentTimeMillis then none else some .numberFormat

theorem processEnvelope_thrown {p : Platform} (nullCaught : Bool) (envelope : Envelope) (tag : String) (draw : Draw)
    (files : Files) :
    (∃ message, (processEnvelope nullCaught p envelope tag draw files).result = .ok message ∧
        draw.thrown nullCaught = none) ∨
      ∃ e, (processEnvelope nullCaught p envelope tag draw files).result = .error e ∧ draw.thrown nullCaught = some e := by
  rw [processEnvelope_eq, Draw.thrown, toMessageJSONO_eq]
  cases draw.attempts.escaping nullCaught with
  | some e => exact .inr ⟨e, rfl, rfl⟩
  | none =>
    cases draw.attempts.reportedDuplicate with
    | true => exact .inl ⟨none, rfl, by simp⟩
    | false =>
      by_cases dated : Dated draw.currentTimeMillis
      · left
        simp [dated]
      · exact .inr ⟨.numberFormat, by simp [dated], by simp [dated]⟩

theorem processEnvelope_ok {nullCaught : Bool} {p : Platform} {envelope : Envelope} {tag : String} {draw : Draw}
    {files : Files} {message : Option Json}
    (done : (processEnvelope nullCaught p envelope tag draw files).result = .ok message) :
    (message = none ∧ draw.attempts.reportedDuplicate = true ∧
      (processEnvelope nullCaught p envelope tag draw files).files =
        (processEnvelope nullCaught p envelope tag draw files).decrypted) ∨
    ∃ entry, message = some entry ∧ draw.attempts.reportedDuplicate = false ∧
      toMessageJSONO p draw.attempts.plaintext envelope.source 1 envelope.timestamp draw.currentTimeMillis = .ok entry ∧
      (processEnvelope nullCaught p envelope tag draw files).files =
        MessageStorage.storeMessage p envelope.source entry tag
          (processEnvelope nullCaught p envelope tag draw files).decrypted := by
  unfold processEnvelope at done ⊢
  dsimp only at done ⊢
  cases decrypted : (decrypt nullCaught p envelope.address draw.attempts files).result with
  | error e =>
    rw [decrypted] at done
    cases done
  | ok pair =>
    obtain ⟨messageBytes, duplicate⟩ := pair
    obtain ⟨rfl, rfl⟩ := decrypt_ok decrypted
    simp only [decrypted] at done ⊢
    cases reported : draw.attempts.reportedDuplicate with
    | true =>
      simp only [reported, if_true] at done ⊢
      exact .inl ⟨(Except.ok.inj done).symm, trivial, trivial⟩
    | false =>
      simp only [reported, Bool.false_eq_true, if_false] at done ⊢
      right
      cases made : toMessageJSONO p draw.attempts.plaintext envelope.address.name envelope.address.deviceId
        envelope.timestamp draw.currentTimeMillis with
      | error e =>
        simp only [made] at done
        cases done
      | ok entry =>
        simp only [made] at done ⊢
        exact ⟨entry, (Except.ok.inj done).symm, trivial, made, rfl⟩

theorem upkeep_processEnvelope (nullCaught : Bool) (p : Platform) (envelope : Envelope) (tag : String) (draw : Draw)
    (files : Files) : ProtocolStorage.Upkeep p files (processEnvelope nullCaught p envelope tag draw files).decrypted ∧
      ((processEnvelope nullCaught p envelope tag draw files).result.toOption = none →
        (processEnvelope nullCaught p envelope tag draw files).files =
          (processEnvelope nullCaught p envelope tag draw files).decrypted) := by
  have upkeep := upkeep_decrypt nullCaught p envelope.address draw.attempts files
  unfold processEnvelope
  dsimp only
  split
  · exact ⟨upkeep, fun _ => rfl⟩
  · split
    · exact ⟨upkeep, fun _ => rfl⟩
    · split
      · exact ⟨upkeep, fun _ => rfl⟩
      · exact ⟨upkeep, fun failed => by cases failed⟩

end PillarSignal.Android
