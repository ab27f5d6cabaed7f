import PillarSignal.Properties.ContactIsolation
import PillarSignal.Properties.PushPull
import PillarSignal.Properties.QueueEntries

namespace PillarSignal.Android

open Storage SignalClient

variable {p : Platform} {username messageTag : String}

def Handled.url (one : Handled) : String := deleteUrl one.envelope.source one.envelope.timestamp

/-- A message that is due comes at a time that fits. -/
def Handled.InTime (one : Handled) : Prop := one.message ≠ none → Dated one.draw.currentTimeMillis

instance (one : Handled) : Decidable one.InTime := inferInstanceAs (Decidable (_ → _))

def Handled.entries (handled : List Handled) : List Json := handled.filterMap Handled.message

theorem Handled.entries_singleton (one : Handled) : Handled.entries [one] = one.message.toList := by
  cases made : one.message <;> simp [Handled.entries, made]

namespace SignalClient

theorem fields_of_formed {entry : Json} (formed : ¬ Malformed p entry) :
    ∃ message text source type bytes, entry = .obj message ∧ p.json.getString message "message" = .ok text ∧
      p.json.getString message "source" = .ok source ∧ p.json.getString message "type" = .ok type ∧
      p.texts.bytes.decode text = some bytes := by
  have has : ∀ message key, ¬ Malformed p (.obj message) → key ∈ ["message", "source", "type"] →
      ∃ text, p.json.getString message key = .ok text := by
    intro message key formed member
    cases read : p.json.getString message key with
    | error e => exact absurd (.inl ⟨key, member, e, read⟩) formed
    | ok text => exact ⟨text, rfl⟩
  cases entry with
  | obj message =>
    obtain ⟨text, sent⟩ := has message "message" formed (by simp)
    obtain ⟨source, named⟩ := has message "source" formed (by simp)
    obtain ⟨type, typed⟩ := has message "type" formed (by simp)
    cases decoded : p.texts.bytes.decode text with
    | none => exact absurd (.inr ⟨text, sent, decoded⟩) formed
    | some bytes => exact ⟨message, text, source, type, bytes, rfl, sent, named, typed, decoded⟩
  | _ => exact absurd trivial formed

theorem formed_of_fields {message : JSONObject} {text source type : String} {bytes : Bytes}
    (sent : p.json.getString message "message" = .ok text) (named : p.json.getString message "source" = .ok source)
    (typed : p.json.getString message "type" = .ok type) (decoded : p.texts.bytes.decode text = some bytes) :
    ¬ Malformed p (.obj message) := by
  intro malformed
  rcases malformed with ⟨key, listed, e, failed⟩ | ⟨other, read, refused⟩
  · simp only [List.mem_cons, List.not_mem_nil, or_false] at listed
    rcases listed with rfl | rfl | rfl
    · cases sent.symm.trans failed
    · cases named.symm.trans failed
    · cases typed.symm.trans failed
  · cases sent.symm.trans read
    cases decoded.symm.trans refused

theorem pullEntry_of_none {decodeAndSave : Bool} {entry : Json} {state : Pull} (formed : ¬ Malformed p entry)
    (skipped : pulledEnvelope p username messageTag decodeAndSave entry state.files = none) (draw : Draw) :
    ∃ unread, pullEntry p username messageTag decodeAndSave entry draw state = (.ok (), { state with unread }) := by
  obtain ⟨message, text, source, type, bytes, rfl, sent, named, typed, decoded⟩ := fields_of_formed formed
  obtain ⟨unread, counted⟩ := counted_eq type source (p.json.optLong message "timestamp" 0) state
  simp only [pulledEnvelope, sent, named, typed, decoded, Option.map_some, ite_eq_right_iff, reduceCtorEq, imp_false]
    at skipped
  simp only [pullEntry, bind, Except.bind, pure, Except.pure, sent, named, typed]
  by_cases tagged : messageTag = p.json.optString message "tag"
  · rw [if_pos tagged, counted, if_neg fun chosen => skipped ⟨tagged, chosen⟩]
    exact ⟨unread, rfl⟩
  · rw [if_neg tagged]
    exact ⟨state.unread, rfl⟩

/-- An envelope as it is to be handled: it gets its entry unless a decryption reports a duplicate. -/
def due (p : Platform) (envelope : Envelope) (tag : String) (draw : Draw) (files : Files) : Handled where
  envelope
  tag
  draw
  message := if draw.attempts.reportedDuplicate then none
    else some (messageJSONO p draw.attempts.plaintext envelope.source 1 envelope.timestamp
      (draw.currentTimeMillis.tdiv 1000))
  decrypted := (decrypt true p envelope.address draw.attempts files).files

/-- The envelopes of a queue that are to be handled: of the contact and the tag, with a message, and with a session when
    they are reached. -/
def dues (p : Platform) (username messageTag : String) (draws : Nat → Draw) : Nat → List Json → Files → List Handled
  | _, [], _ => []
  | i, entry :: entries, files =>
    match pulledEnvelope p username messageTag true entry files with
    | none => dues p username messageTag draws (i + 1) entries files
    | some envelope =>
      let one := due p envelope messageTag (draws i) files
      one :: dues p username messageTag draws (i + 1) entries (one.after p)

def leaves (p : Platform) : Files → List Handled → Files
  | files, [] => files
  | _, one :: later => leaves p (one.after p) later

def Pull.onward (p : Platform) (state : Pull) (unread : JSONObject) (handled : List Handled) : Pull where
  files := leaves p state.files handled
  unread
  received := state.received ++ Handled.entries handled
  handled := state.handled ++ handled
  deletes := state.deletes ++ handled.map Handled.url

theorem dues_of_none {entry : Json} {files : Files} (skipped : pulledEnvelope p username messageTag true entry files = none)
    (draws : Nat → Draw) (i : Nat) (entries : List Json) :
    dues p username messageTag draws i (entry :: entries) files =
      dues p username messageTag draws (i + 1) entries files := by
  rw [dues, skipped]

theorem dues_of_some {entry : Json} {files : Files} {envelope : Envelope}
    (pulled : pulledEnvelope p username messageTag true entry files = some envelope) (draws : Nat → Draw) (i : Nat)
    (entries : List Json) :
    dues p username messageTag draws i (entry :: entries) files =
      due p envelope messageTag (draws i) files ::
        dues p username messageTag draws (i + 1) entries ((due p envelope messageTag (draws i) files).after p) := by
  rw [dues, pulled]

theorem processEnvelope_due {nullCaught : Bool} {draw : Draw} (caught : draw.attempts.escaping nullCaught = none)
    (envelope : Envelope) (tag : String) (files : Files) :
    processEnvelope nullCaught p envelope tag draw files =
      if (due p envelope tag draw files).InTime then
        ⟨.ok (due p envelope tag draw files).message, (due p envelope tag draw files).decrypted,
          (due p envelope tag draw files).after p⟩
      else ⟨.error .numberFormat, (due p envelope tag draw files).decrypted, (due p envelope tag draw files).decrypted⟩ := by
  have kept := @decrypt_files p true envelope.address draw.attempts files
  rw [processEnvelope_eq, caught, toMessageJSONO_eq, ← kept]
  cases reported : draw.attempts.reportedDuplicate with
  | true => simp [due, reported, Handled.InTime, Handled.after]
  | false => by_cases dated : Dated draw.currentTimeMillis <;> simp [due, reported, dated, Handled.InTime, Handled.after]

theorem pullEntry_due {entry : Json} {state : Pull} {envelope : Envelope} {draw : Draw}
    (pulled : pulledEnvelope p username messageTag true entry state.files = some envelope)
    (caught : draw.attempts.escaping true = none) :
    ∃ unread, pullEntry p username messageTag true entry draw state =
      if (due p envelope messageTag draw state.files).InTime then
        (.ok (), state.onward p unread [due p envelope messageTag draw state.files])
      else (.error .numberFormat, { state with files := (due p envelope messageTag draw state.files).decrypted, unread }) := by
  obtain ⟨unread, decrypted⟩ := pullEntry_of_envelope pulled draw
  refine ⟨unread, ?_⟩
  rw [decrypted, pullEnvelope]
  dsimp only
  rw [processEnvelope_due caught]
  by_cases inTime : (due p envelope messageTag draw state.files).InTime
  · rw [if_pos inTime, if_pos inTime, Pull.onward, Handled.entries_singleton]
    rfl
  · rw [if_neg inTime, if_neg inTime]

theorem onward_cons (state : Pull) (unread later : JSONObject) (one : Handled) (handled : List Handled) :
    (state.onward p unread [one]).onward p later handled = state.onward p later (one :: handled) := by
  cases message : one.message <;> simp [Pull.onward, leaves, Handled.entries, message]

section Run

variable {draws : Nat → Draw} (caught : ∀ i, (draws i).attempts.escaping true = none) {entries : List Json}
  (formed : ∀ entry ∈ entries, ¬ Malformed p entry)
include caught formed

theorem pullLoop_in_time (i : Nat) (state : Pull) 
    (inTime : ∀ one ∈ dues p username messageTag draws i entries state.files, one.InTime) :
    ∃ unread, pullLoop p username messageTag true draws i entries state =
      (none, state.onward p unread (dues p username messageTag draws i entries state.files)) := by
  induction entries generalizing i state with
  | nil => exact ⟨state.unread, by simp [pullLoop, dues, Pull.onward, leaves, Handled.entries]⟩
  | cons entry entries ih =>
    have others := fun other (member : other ∈ entries) => formed other (List.mem_cons_of_mem entry member)
    rw [pullLoop]
    cases pulled : pulledEnvelope p username messageTag true entry state.files with
    | none =>
      obtain ⟨unread, counted⟩ := pullEntry_of_none (formed entry List.mem_cons_self) pulled (draws i)
      rw [dues_of_none pulled] at inTime ⊢
      rw [counted]
      exact ih others (i + 1) { state with unread } inTime
    | some envelope =>
      obtain ⟨unread, handled⟩ := pullEntry_due pulled (caught i)
      rw [dues_of_some pulled] at inTime ⊢
      obtain ⟨first, rest⟩ := List.forall_mem_cons.mp inTime
      obtain ⟨later, run⟩ :=
        ih others (i + 1) (state.onward p unread [due p envelope messageTag (draws i) state.files]) rest
      rw [onward_cons] at run
      rw [handled, if_pos first]
      exact ⟨later, run⟩

theorem pullLoop_late (i : Nat) (state : Pull) 
    (late : ¬ ∀ one ∈ dues p username messageTag draws i entries state.files, one.InTime) :
    (pullLoop p username messageTag true draws i entries state).1 = some .numberFormat := by
  induction entries generalizing i state with
  | nil => exact absurd (List.forall_mem_nil _) late
  | cons entry entries ih =>
    have others := fun other (member : other ∈ entries) => formed other (List.mem_cons_of_mem entry member)
    rw [pullLoop]
    cases pulled : pulledEnvelope p username messageTag true entry state.files with
    | none =>
      obtain ⟨unread, counted⟩ := pullEntry_of_none (formed entry List.mem_cons_self) pulled (draws i)
      rw [dues_of_none pulled] at late
      rw [counted]
      exact ih others (i + 1) { state with unread } late
    | some envelope =>
      obtain ⟨unread, handled⟩ := pullEntry_due pulled (caught i)
      rw [dues_of_some pulled, List.forall_mem_cons] at late
      by_cases first : (due p envelope messageTag (draws i) state.files).InTime
      · rw [handled, if_pos first]
        exact ih others (i + 1) (state.onward p unread [due p envelope messageTag (draws i) state.files])
          fun rest => late ⟨first, rest⟩
      · rw [handled, if_neg first]

end Run

end SignalClient

open MessageStorage

/-- Envelopes of one contact and tag that are handled one after the other, with no history changed between them and every
    place writable. -/
inductive Unfolds (p : Platform) (username tag : String) : Files → List Handled → Prop where
  | nil (files : Files) : Unfolds p username tag files []
  | cons {files : Files} {one : Handled} {later : List Handled} (source : one.envelope.source = username)
      (filed : one.tag = tag)
      (kept : ∀ contact label,
        getContactMessages p contact label one.decrypted = getContactMessages p contact label files)
      (writable : one.message ≠ none → Writable p username tag one.decrypted)
      (rest : Unfolds p username tag (one.after p) later) : Unfolds p username tag files (one :: later)

section Histories

variable {tag : String} {files : Files} {handled : List Handled}

theorem Handled.after_of_none {one : Handled} (nothing : one.message = none) : one.after p = one.decrypted := by
  rw [Handled.after, nothing]

theorem Handled.after_of_some {one : Handled} {message : Json} (made : one.message = some message) :
    one.after p = storeMessage p one.envelope.source message one.tag one.decrypted := by
  rw [Handled.after, made]

theorem Unfolds.length_le (unfolds : Unfolds p username tag files handled) :
    (getContactMessages p username tag (leaves p files handled)).length ≤
      (getContactMessages p username tag files).length + (Handled.entries handled).length := by
  induction unfolds with
  | nil files => exact Nat.le_add_right _ _
  | @cons files one later source filed kept writable rest ih =>
    subst source
    subst filed
    refine le_trans ih ?_
    cases made : one.message with
    | none => simp [Handled.after_of_none made, kept, Handled.entries, made]
    | some message =>
      rw [Handled.after_of_some made]
      by_cases readable : Readable p one.envelope.source one.tag one.decrypted
      · rw [(storable_of_readable (writable (by simp [made])) readable).appended message, kept]
        simp [Handled.entries, made]
        omega
      · rw [storeMessage_of_unreadable readable, getContactMessages_withContact, kept]
        simp [Handled.entries, made]

theorem Unfolds.appended_iff (unfolds : Unfolds p username tag files handled) :
    getContactMessages p username tag (leaves p files handled) =
        getContactMessages p username tag files ++ Handled.entries handled ↔
      ∀ one ∈ handled, one.message ≠ none → Readable p username tag one.decrypted := by
  induction unfolds with
  | nil files => simp [leaves, Handled.entries]
  | @cons files one later source filed kept writable rest ih =>
    subst source
    subst filed
    rw [leaves, List.forall_mem_cons]
    cases made : one.message with
    | none =>
      rw [Handled.after_of_none made] at ih ⊢
      rw [kept] at ih
      simpa [Handled.entries, made] using ih
    | some message =>
      have entries : Handled.entries (one :: later) = message :: Handled.entries later := by
        rw [Handled.entries, List.filterMap_cons_some made, Handled.entries]
      have bound := rest.length_le
      rw [Handled.after_of_some made] at ih bound ⊢
      rw [entries]
      by_cases readable : Readable p one.envelope.source one.tag one.decrypted
      · rw [(storable_of_readable (writable (by simp [made])) readable).appended message, kept, List.append_assoc,
          List.singleton_append] at ih
        simp [ih, readable]
      · rw [storeMessage_of_unreadable readable] at bound ⊢
        rw [getContactMessages_withContact, kept] at bound
        refine iff_of_false (fun appended => ?_) (fun all => readable (all.1 (by simp)))
        rw [appended, List.length_append, List.length_cons] at bound
        omega

variable {other label : String}

theorem Unfolds.length_mono (unfolds : Unfolds p username tag files handled)
    (readable : ∀ one ∈ handled, one.message ≠ none → Readable p username tag one.decrypted) :
    (getContactMessages p other label files).length ≤ (getContactMessages p other label (leaves p files handled)).length := by
  induction unfolds with
  | nil files => exact le_refl _
  | @cons files one later source filed kept writable rest ih =>
    subst source
    subst filed
    obtain ⟨first, others⟩ := List.forall_mem_cons.mp readable
    refine le_trans ?_ (ih others)
    rw [← kept]
    cases made : one.message with
    | none => rw [Handled.after_of_none made]
    | some message =>
      rw [Handled.after_of_some made]
      have storable := storable_of_readable (writable (by simp [made])) (first (by simp [made]))
      obtain ⟨unseen, seen⟩ := storable.seen_iff message other label
      by_cases apart : ApartFrom p one.envelope.source one.tag other label one.decrypted
      · rw [unseen apart]
      · exact (seen apart).le

theorem Unfolds.unchanged_iff (unfolds : Unfolds p username tag files handled)
    (readable : ∀ one ∈ handled, one.message ≠ none → Readable p username tag one.decrypted) :
    getContactMessages p other label (leaves p files handled) = getContactMessages p other label files ↔
      ∀ one ∈ handled, one.message ≠ none → ApartFrom p username tag other label one.decrypted := by
  induction unfolds with
  | nil files => simp [leaves]
  | @cons files one later source filed kept writable rest ih =>
    subst source
    subst filed
    obtain ⟨first, others⟩ := List.forall_mem_cons.mp readable
    have onward := ih others
    have bound := @Unfolds.length_mono p _ _ _ _ other label rest others
    rw [leaves, List.forall_mem_cons, ← kept]
    cases made : one.message with
    | none =>
      rw [Handled.after_of_none made] at onward ⊢
      simp [onward]
    | some message =>
      have storable := storable_of_readable (writable (by simp [made])) (first (by simp [made]))
      obtain ⟨unseen, seen⟩ := storable.seen_iff message other label
      rw [Handled.after_of_some made] at onward bound ⊢
      by_cases apart : ApartFrom p one.envelope.source one.tag other label one.decrypted
      · rw [unseen apart] at onward
        simp [onward, apart]
      · refine iff_of_false (fun same => ?_) (fun all => apart (all.1 (by simp)))
        have longer := seen apart
        rw [same] at bound
        omega

end Histories

theorem dues_unfold {draws : Nat → Draw} {i : Nat} {entries : List Json} {files : Files}
    (writable : ∀ one ∈ dues p username messageTag draws i entries files, one.message ≠ none →
      Writable p username messageTag one.decrypted) :
    Unfolds p username messageTag files (dues p username messageTag draws i entries files) := by
  induction entries generalizing i files with
  | nil => exact .nil files
  | cons entry entries ih =>
    cases pulled : pulledEnvelope p username messageTag true entry files with
    | none =>
      rw [dues_of_none pulled] at writable ⊢
      exact ih writable
    | some envelope =>
      rw [dues_of_some pulled] at writable ⊢
      obtain ⟨first, others⟩ := List.forall_mem_cons.mp writable
      obtain ⟨source, session, _⟩ := pulledEnvelope_eq_some pulled
      refine .cons source rfl (fun contact label => ?_) first (ih others)
      have upkeep := upkeep_decrypt true p envelope.address (draws i).attempts files
      exact getContactMessages_eq (readFromStorage_framed upkeep.framed (directory_of_session session) ..)

/-- What a pull does with the envelopes that are due: their entries are appended and returned, they are deleted from the
    server, and another history is left alone. -/
structure Pulls (p : Platform) (username messageTag other label : String) (files : Files) (handled : List Handled)
    (received : Received) : Prop where
  appended : getContactMessages p username messageTag received.files =
    getContactMessages p username messageTag files ++ Handled.entries handled
  returned : ∃ unread, received.settlement = some (.resolve (String.ofList (p.json.print (.obj
    ([("unread", .obj unread)] ++
      if Handled.entries handled ≠ [] then [("messages", .arr (Handled.entries handled))] else [])))))
  deletes : received.deletes = handled.map Handled.url
  unchanged : getContactMessages p other label received.files = getContactMessages p other label files

/-- A message can be kept: the clock fits, the history parses, and the other history is apart from it. -/
structure Keeps (p : Platform) (username messageTag other label : String) (one : Handled) : Prop where
  dated : Dated one.draw.currentTimeMillis
  readable : Readable p username messageTag one.decrypted
  apart : ApartFrom p username messageTag other label one.decrypted

/-- A pull over well-formed entries whose decryptions end within the ladder does what it is for exactly when every message
    that is due can be kept. -/
theorem pull_handles_what_is_due_iff (p : Platform) (username messageTag other label : String) (response : Response)
    (draws : Nat → Draw) (files : Files) (formed : ∀ entry ∈ queueOf p response, ¬ Malformed p entry)
    (caught : ∀ i, (draws i).attempts.escaping true = none)
    (writable : ∀ one ∈ dues p username messageTag draws 0 (queueOf p response) files, one.message ≠ none →
      Writable p username messageTag one.decrypted) :
    Pulls p username messageTag other label files (dues p username messageTag draws 0 (queueOf p response) files)
        (SignalClient.getContactMessages p username messageTag true (.answered response) draws files) ↔
      ∀ one ∈ dues p username messageTag draws 0 (queueOf p response) files, one.message ≠ none →
        Keeps p username messageTag other label one := by
  have unfolds := dues_unfold writable
  have inTime_run := @pullLoop_in_time p username messageTag draws caught (queueOf p response) formed 0 ⟨files, [], [], [], []⟩
  have late_run := @pullLoop_late p username messageTag draws caught (queueOf p response) formed 0 ⟨files, [], [], [], []⟩
  dsimp only at inTime_run late_run
  rw [getContactMessages_answered, pulled]
  generalize dues p username messageTag draws 0 (queueOf p response) files = handled at *
  by_cases inTime : ∀ one ∈ handled, one.InTime
  · obtain ⟨unread, run⟩ := inTime_run inTime
    rw [run]
    constructor
    · intro pulls one member due
      have readable := unfolds.appended_iff.mp pulls.appended
      have apart := (unfolds.unchanged_iff readable).mp pulls.unchanged
      exact ⟨inTime one member due, readable one member due, apart one member due⟩
    · intro keeps
      have readable := fun one member due => (keeps one member due).readable
      refine ⟨unfolds.appended_iff.mpr readable, ⟨unread, rfl⟩, rfl, ?_⟩
      exact (unfolds.unchanged_iff readable).mpr fun one member due => (keeps one member due).apart
  · refine iff_of_false (fun pulls => ?_) (fun keeps => inTime fun one member due => (keeps one member due).dated)
    obtain ⟨unread, settled⟩ := pulls.returned
    have stopped := late_run inTime
    dsimp only at settled
    rw [stopped] at settled
    simp [pullSettlement] at settled

section Kept

def bobPulls (history : String) (draw : Draw) : Received :=
  SignalClient.getContactMessages .plain "bob" "chat" true (.answered bobQueue) (fun _ => draw) (bobFiles history)

theorem warning_is_pulled :
    Pulls .plain "bob" "chat" "carol" "chat" (bobFiles "[]")
      (dues .plain "bob" "chat" (fun _ => undecryptable) 0 (queueOf .plain bobQueue) (bobFiles "[]"))
      (bobPulls "[]" undecryptable) := by
  have usable : ∀ one ∈ dues .plain "bob" "chat" (fun _ => undecryptable) 0 (queueOf .plain bobQueue) (bobFiles "[]"),
      (withContact .plain "bob" one.decrypted).tree.resolve [] (fileNames "bob" (getMessageStoreFilename "chat")) =
        some ["messages.json", "bob", "messages"] ∧
      (withContact .plain "bob" one.decrypted).tree.stat ["messages.json", "bob", "messages"] ≠ some .dir ∧
      one.decrypted.outcomes ["messages.json", "bob", "messages"] = [] ∧
      readHistory .plain "bob" (getMessageStoreFilename "chat") one.decrypted = .ok [] ∧
      Dated one.draw.currentTimeMillis := by
    decide +kernel
  refine (pull_handles_what_is_due_iff .plain "bob" "chat" "carol" "chat" bobQueue (fun _ => undecryptable)
    (bobFiles "[]") ?_ (fun _ => rfl) ?_).mpr ?_
  · have queue : queueOf .plain bobQueue = [.obj Plain.bobEntry] := by decide +kernel
    rw [queue]
    intro entry member
    rw [List.mem_singleton.mp member, Plain.bobEntry]
    exact @formed_of_fields .plain _ "m" "bob" "1" _ rfl rfl (by decide +kernel) rfl
  · intro one member _
    obtain ⟨found, leaf, queued, _⟩ := usable one member
    exact ⟨_, ⟨found, leaf⟩, by simp [Disk.NextWritten, queued]⟩
  · intro one member _
    obtain ⟨_, _, _, readable, dated⟩ := usable one member
    exact ⟨dated, ⟨[], readable⟩, apartFrom_of_components (by decide) (by decide) (.inl (by decide))⟩

/-- Into a history that does not parse the message is not appended, though it is returned and deleted; and after 2038
    nothing comes back at all. -/
theorem pulled_messages_are_lost :
    (MessageStorage.getContactMessages .plain "bob" "chat" (bobPulls "x" undecryptable).files = [] ∧
      (bobPulls "x" undecryptable).settlement = some (.resolve (String.ofList (JsonText.print (.obj
        [("unread", .obj [("bob", .obj [("count", .num 1), ("latest", .num 5)])]),
          ("messages", .arr [messageJSONO .plain none "bob" 1 5 1])])))) ∧
      (bobPulls "x" undecryptable).deletes = ["/v1/messages/bob/5"]) ∧
    (MessageStorage.getContactMessages .plain "bob" "chat"
        (bobPulls "[]" { undecryptable with currentTimeMillis := 1000 * 2 ^ 31 }).files = [] ∧
      (bobPulls "[]" { undecryptable with currentTimeMillis := 1000 * 2 ^ 31 }).settlement = none ∧
      (bobPulls "[]" { undecryptable with currentTimeMillis := 1000 * 2 ^ 31 }).deletes = []) := by
  decide +kernel

end Kept
end PillarSignal.Android
