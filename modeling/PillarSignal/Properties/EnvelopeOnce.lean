import PillarSignal.Properties.AndroidConversation
import PillarSignal.Properties.Delivery
import PillarSignal.Properties.SessionRebuild

namespace PillarSignal.Android

open Storage MessageStorage SignalClient

variable {p : Platform}

/-- How envelopes come in, and what may befall a session in between. -/
inductive Arrival where
  | pull (username messageTag : String) (decodeAndSave : Bool) (exchange : Exchange) (draws : Nat → Draw)
  | push (messageTag : String) (receivedMessage : List Char) (draw : Draw)
  | rebuild (username : String) (exchange : Exchange) (process : Process)

def Arrival.run (p : Platform) (files : Files) : Arrival → Files
  | .pull username messageTag decodeAndSave exchange draws =>
    (SignalClient.getContactMessages p username messageTag decodeAndSave exchange draws files).files
  | .push messageTag receivedMessage draw => (decryptSignalMessage p messageTag receivedMessage draw files).files
  | .rebuild username exchange process => (RNSignalClientModule.addContact p username true exchange process files).2

inductive Happening where
  | handled (one : Handled)
  | sessionDeleted (username : String)

def Arrival.happenings (p : Platform) (files : Files) : Arrival → List Happening
  | .pull username messageTag decodeAndSave exchange draws =>
    (SignalClient.getContactMessages p username messageTag decodeAndSave exchange draws files).handled.map .handled
  | .push messageTag receivedMessage draw =>
    (decryptSignalMessage p messageTag receivedMessage draw files).handled.map .handled
  | .rebuild username exchange _ => if (firstDevice p exchange).isSome then [.sessionDeleted username] else []

def Happening.entry : Happening → Option Handled
  | .handled one => if one.message.isSome then some one else none
  | .sessionDeleted _ => none

def entriesOf (happened : List Happening) : List Handled := happened.filterMap Happening.entry

/-- The ciphertexts that were decrypted in sessions which are still held, by the contact they came from. -/
def Happening.onHeld (held : List (String × Bytes)) : Happening → List (String × Bytes)
  | .handled one =>
    if one.draw.attempts.plaintext.isSome then (one.envelope.source, one.envelope.ciphertext) :: held else held
  | .sessionDeleted username => held.filter (·.1 ≠ username)

def Holds (happened : List Happening) (envelope : Envelope) : Prop :=
  (envelope.source, envelope.ciphertext) ∈ happened.foldl Happening.onHeld []

def HasEntry (happened : List Happening) (envelope : Envelope) : Prop :=
  envelope ∈ (entriesOf happened).map Handled.envelope

theorem entriesOf_append (first second : List Happening) :
    entriesOf (first ++ second) = entriesOf first ++ entriesOf second := List.filterMap_append

theorem entriesOf_handled (one : Handled) : entriesOf [.handled one] = if one.message.isSome then [one] else [] := by
  cases made : one.message.isSome <;> simp [entriesOf, Happening.entry, made]

theorem Delivers.faithful {before after : Files} {handled : List Handled} (delivers : Delivers p before handled after) :
    ∀ one ∈ handled, one.Faithful p := by
  induction delivers with
  | done _ => simp
  | next _ faithful _ ih => exact List.forall_mem_cons.mpr ⟨faithful, ih⟩

theorem Arrival.faithful (arrival : Arrival) {files : Files} {one : Handled}
    (member : .handled one ∈ arrival.happenings p files) : one.Faithful p := by
  cases arrival with
  | pull username messageTag decodeAndSave exchange draws =>
    obtain ⟨other, found, same⟩ := List.mem_map.mp member
    cases same
    exact (getContactMessages_delivers decodeAndSave exchange draws files).1.faithful one found
  | push messageTag receivedMessage draw =>
    obtain ⟨other, found, same⟩ := List.mem_map.mp member
    cases same
    exact (decryptSignalMessage_delivers receivedMessage draw files).1.faithful one found
  | rebuild username exchange process =>
    rw [Arrival.happenings] at member
    split at member <;> simp at member

theorem happened_faithful (arrivals : List Arrival) (files : Files) {one : Handled}
    (member : .handled one ∈ trace (Arrival.run p) (Arrival.happenings p) arrivals files) : one.Faithful p := by
  induction arrivals generalizing files with
  | nil => cases member
  | cons arrival arrivals ih =>
    rcases List.mem_append.mp member with now | later
    · exact arrival.faithful now
    · exact ih _ later

theorem Handled.Faithful.message_isSome {one : Handled} (faithful : one.Faithful p) :
    one.message.isSome = !one.draw.attempts.reportedDuplicate := by
  unfold Handled.Faithful at faithful
  split at faithful
  · rename_i none_made
    simp [none_made, faithful]
  · rename_i made
    simp [made, faithful.1]

section Once

variable {happened : List Happening} (faithful : ∀ one, .handled one ∈ happened → one.Faithful p)
include faithful

theorem entries_nodup
    (libsignal : ∀ done one, done ++ [.handled one] <+: happened → Holds done one.envelope →
      one.draw.attempts.reportedDuplicate = true)
    (held : ∀ done one, done ++ [.handled one] <+: happened → HasEntry done one.envelope → Holds done one.envelope) :
    ((entriesOf happened).map Handled.envelope).Nodup := by
  induction happened using List.reverseRecOn with
  | nil => exact List.nodup_nil
  | append_singleton done last ih =>
    have before := ih (fun one member => faithful one (List.mem_append_left _ member))
      (fun front one below => libsignal front one (below.trans (List.prefix_append ..)))
      (fun front one below => held front one (below.trans (List.prefix_append ..)))
    rw [entriesOf_append, List.map_append]
    cases last with
    | sessionDeleted username =>
      have nothing : entriesOf [.sessionDeleted username] = [] := rfl
      rw [nothing, List.map_nil, List.append_nil]
      exact before
    | handled one =>
      have made := (faithful one (by simp)).message_isSome
      rw [entriesOf_handled]
      by_cases known : HasEntry done one.envelope
      · rw [libsignal done one List.prefix_rfl (held done one List.prefix_rfl known)] at made
        simpa [made] using before
      · split
        · rw [List.map_singleton, List.nodup_append]
          refine ⟨before, by simp, ?_⟩
          intro envelope first other second same
          rw [List.mem_singleton.mp second] at same
          exact known (same ▸ first)
        · simpa using before

theorem held_of_nodup
    (exact_ : ∀ done one, done ++ [.handled one] <+: happened → one.draw.attempts.reportedDuplicate = true →
      Holds done one.envelope)
    (once : ((entriesOf happened).map Handled.envelope).Nodup) (done : List Happening) (one : Handled)
    (below : done ++ [.handled one] <+: happened) (known : HasEntry done one.envelope) : Holds done one.envelope := by
  by_contra lost
  have fresh : one.draw.attempts.reportedDuplicate = false := by
    rw [← Bool.not_eq_true]
    exact fun reported => lost (exact_ done one below reported)
  have made : one.message.isSome = true := by
    rw [(faithful one (below.subset (by simp))).message_isSome, fresh]
    rfl
  obtain ⟨rest, rfl⟩ := below
  rw [entriesOf_append, entriesOf_append, entriesOf_handled, if_pos made, List.map_append, List.map_append, List.map_singleton] at once
  have apart := (List.nodup_append.mp (List.nodup_append.mp once).1).2.2
  exact apart _ known _ (List.mem_singleton.mpr rfl) rfl

end Once

theorem flatMap_entriesOf (handled : List Handled) :
    (entriesOf (handled.map .handled)).flatMap Handled.events = handled.flatMap Handled.events := by
  induction handled with
  | nil => rfl
  | cons one handled ih =>
    rw [List.map_cons, entriesOf, List.filterMap_cons, Happening.entry, List.flatMap_cons, ← ih]
    cases made : one.message with
    | none => simp [Handled.events, made, entriesOf]
    | some message => simp [entriesOf]

theorem Arrival.logs (arrival : Arrival) {files : Files} (filed : Filed p files)
    (named : ∀ one, .handled one ∈ arrival.happenings p files → Component one.envelope.source) :
    Logs p files ((entriesOf (arrival.happenings p files)).flatMap Handled.events) (arrival.run p files) := by
  cases arrival with
  | pull username messageTag decodeAndSave exchange draws =>
    rw [Arrival.happenings, flatMap_entriesOf]
    exact (getContactMessages_delivers decodeAndSave exchange draws files).1.logs filed fun one member =>
      named one (List.mem_map_of_mem member)
  | push messageTag receivedMessage draw =>
    rw [Arrival.happenings, flatMap_entriesOf]
    exact (decryptSignalMessage_delivers receivedMessage draw files).1.logs filed fun one member =>
      named one (List.mem_map_of_mem member)
  | rebuild username exchange process =>
    have nothing : (entriesOf ((Arrival.rebuild username exchange process).happenings p files)).flatMap Handled.events = [] := by
      rw [Arrival.happenings]
      split <;> rfl
    rw [nothing, Arrival.run]
    exact (Beside.of_framed (RNSignalClientModule.upkeep_addContact ..).framed).logs filed

theorem arrivals_logs (arrivals : List Arrival) {files : Files} (filed : Filed p files)
    (named : ∀ one, .handled one ∈ trace (Arrival.run p) (Arrival.happenings p) arrivals files →
      Component one.envelope.source) :
    Logs p files ((entriesOf (trace (Arrival.run p) (Arrival.happenings p) arrivals files)).flatMap Handled.events)
      (arrivals.foldl (Arrival.run p) files) := by
  induction arrivals generalizing files with
  | nil => exact (Beside.refl (p := p) files).logs filed
  | cons arrival arrivals ih =>
    have first := arrival.logs filed fun one member => named one (List.mem_append_left _ member)
    have later := ih first.1 fun one member => named one (List.mem_append_right _ member)
    rw [trace, entriesOf_append, List.flatMap_append, List.foldl_cons]
    exact first.trans later

theorem foldl_events (key : Conversation) (entries : List Handled) (log : List Json) :
    (entries.flatMap Handled.events).foldl (LogEvent.onto key) log =
      log ++ (entries.filter fun one => conversation one.envelope.source one.tag = key).filterMap Handled.message := by
  induction entries generalizing log with
  | nil => simp
  | cons one entries ih =>
    rw [List.flatMap_cons, List.foldl_append, ih, List.filter_cons, Handled.events]
    cases made : one.message with
    | none =>
      simp only [Option.toList_none, List.map_nil, List.foldl_nil]
      split
      · rw [List.filterMap_cons, made]
      · rfl
    | some message =>
      simp only [Option.toList_some, List.map_cons, List.map_nil, List.foldl_cons, List.foldl_nil, LogEvent.onto]
      split
      · rename_i same
        rw [if_pos (by simpa using same), List.filterMap_cons, made, List.append_assoc]
        rfl
      · rename_i differs
        rw [if_neg (by simpa using differs)]

/-- Pulls and pushes, in any order and with sessions rebuilt in between, make at most one entry for an envelope
    as long as every envelope that comes again was decrypted in a session which is still held. -/
theorem one_entry_per_envelope (p : Platform) (files : Files) (arrivals : List Arrival)
    (libsignal : ∀ done one, done ++ [.handled one] <+: trace (Arrival.run p) (Arrival.happenings p) arrivals files →
      Holds done one.envelope → one.draw.attempts.reportedDuplicate = true) :
    let happened := trace (Arrival.run p) (Arrival.happenings p) arrivals files
    ((∀ done one, done ++ [.handled one] <+: happened → HasEntry done one.envelope → Holds done one.envelope) →
      ((entriesOf happened).map Handled.envelope).Nodup) ∧
    ((∀ done one, done ++ [.handled one] <+: happened → one.draw.attempts.reportedDuplicate = true →
        Holds done one.envelope) →
      ((entriesOf happened).map Handled.envelope).Nodup →
      ∀ done one, done ++ [.handled one] <+: happened → HasEntry done one.envelope → Holds done one.envelope) ∧
    (Filed p files → (∀ one, .handled one ∈ happened → Component one.envelope.source) →
      ∀ username tag, Component username →
        MessageStorage.getContactMessages p username tag (arrivals.foldl (Arrival.run p) files) =
          MessageStorage.getContactMessages p username tag files ++
            ((entriesOf happened).filter fun one =>
              conversation one.envelope.source one.tag = conversation username tag).filterMap Handled.message) := by
  intro happened
  have faithful : ∀ one, .handled one ∈ happened → one.Faithful p := fun one => happened_faithful arrivals files
  refine ⟨entries_nodup faithful libsignal, held_of_nodup faithful, ?_⟩
  intro filed named username tag single
  rw [(arrivals_logs arrivals filed named).2 username tag single, foldl_events]

section Twice

def decrypts : Draw := ⟨⟨.plaintext [1] [], .throws .invalidMessage [], .throws .invalidMessage []⟩, 1000⟩

def duplicate : Draw := ⟨⟨.throws .duplicateMessage [], .throws .invalidMessage [], .throws .invalidMessage []⟩, 1000⟩

def pushedThenPulled (first second : Draw) : List Arrival :=
  [.push "chat" Plain.bobPush first, .pull "bob" "chat" true (.answered bobQueue) fun _ => second]

def happenedTo (arrivals : List Arrival) : List Happening :=
  trace (Arrival.run .plain) (Arrival.happenings .plain) arrivals bobContact

def Happening.outcome : Happening → Option (Envelope × Bool × Bool)
  | .handled one => some (one.envelope, one.draw.attempts.plaintext.isSome, one.draw.attempts.reportedDuplicate)
  | .sessionDeleted _ => none

theorem decrypted_envelope_has_one_entry :
    (happenedTo (pushedThenPulled decrypts duplicate)).length = 2 ∧
    ((entriesOf (happenedTo (pushedThenPulled decrypts duplicate))).map Handled.envelope).Nodup := by
  have outcomes : (happenedTo (pushedThenPulled decrypts duplicate)).map Happening.outcome =
      [some (⟨"bob", 5, [109]⟩, true, false), some (⟨"bob", 5, [109]⟩, false, true)] := by decide +kernel
  obtain ⟨first, rest, shape, pushed, others⟩ := List.map_eq_cons_iff.mp outcomes
  obtain ⟨second, none_left, rfl, pulled, nothing⟩ := List.map_eq_cons_iff.mp others
  rw [List.map_eq_nil_iff.mp nothing] at shape
  have split_run : ∀ done one, done ++ [.handled one] <+: happenedTo (pushedThenPulled decrypts duplicate) →
      done = [] ∨ done = [first] ∧ second = .handled one := by
    intro done one below
    rw [shape] at below
    rcases done with _ | ⟨front, _ | ⟨next, more⟩⟩
    · exact .inl rfl
    · right
      simpa [eq_comm] using below
    · have lengths := below.length_le
      simp at lengths
  refine ⟨by rw [shape]; rfl, (one_entry_per_envelope .plain bobContact _ ?_).1 ?_⟩
  · intro done one below holds
    rcases split_run done one below with rfl | ⟨rfl, rfl⟩
    · cases holds
    · exact congrArg (fun outcome => outcome.2.2) (Option.some.inj pulled)
  · intro done one below known
    rcases split_run done one below with rfl | ⟨rfl, rfl⟩
    · cases known
    · cases first with
      | sessionDeleted username => cases pushed
      | handled before =>
        simp only [Happening.outcome, Option.some.injEq, Prod.mk.injEq] at pushed pulled
        simp [Holds, Happening.onHeld, pushed, pulled]

/-- An envelope that nothing decrypts gets an entry each time it comes, and one that was decrypted gets another
    entry once the session is gone. -/
theorem redelivered_envelope_has_two_entries :
    let warned := pushedThenPulled undecryptable undecryptable
    let rebuilt : List Arrival := [.push "chat" Plain.bobPush decrypts,
      .rebuild "bob" (.answered ⟨200, some (Plain.keysAnswer Plain.bobDevice)⟩) fun _ => .ok [.storeSession ⟨[9]⟩],
      .pull "bob" "chat" true (.answered bobQueue) fun _ => undecryptable]
    ((entriesOf (happenedTo warned)).map Handled.envelope = [⟨"bob", 5, [109]⟩, ⟨"bob", 5, [109]⟩] ∧
      (MessageStorage.getContactMessages .plain "bob" "chat" (warned.foldl (Arrival.run .plain) bobContact)).length = 2) ∧
    (entriesOf (happenedTo rebuilt)).map Handled.envelope = [⟨"bob", 5, [109]⟩, ⟨"bob", 5, [109]⟩] ∧
      (MessageStorage.getContactMessages .plain "bob" "chat" (rebuilt.foldl (Arrival.run .plain) bobContact)).length = 2 := by
  decide +kernel

end Twice
end PillarSignal.Android
