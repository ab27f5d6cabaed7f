import PillarSignal.Properties.Delivery

namespace PillarSignal.Android

open Storage SignalClient

variable {p : Platform} {username messageTag : String} {decodeAndSave : Bool}

namespace SignalClient

def queueOf (p : Platform) (response : Response) : List Json :=
  (OrgJson.optJSONArray (ServerResponse.getResponseJSONObject p response) "messages").getD []

def pulled (p : Platform) (username messageTag : String) (decodeAndSave : Bool) (draws : Nat → Draw) (queue : List Json)
    (files : Files) : Option Thrown × Pull :=
  pullLoop p username messageTag decodeAndSave draws 0 queue ⟨files, [], [], [], []⟩

def Received.returned (received : Received) : Option (List Json) :=
  match received.settlement with
  | some (.resolve _) => some (received.handled.filterMap Handled.message)
  | _ => none

def without (index : Nat) (draws : Nat → Draw) (i : Nat) : Draw := if i < index then draws i else draws (i + 1)

/-- An entry that lacks its message, its source or its type, or that carries no valid Base64. -/
def Malformed (p : Platform) : Json → Prop
  | .obj message => (∃ key ∈ ["message", "source", "type"], ∃ e, p.json.getString message key = .error e) ∨
      ∃ text, p.json.getString message "message" = .ok text ∧ p.texts.bytes.decode text = none
  | _ => True

def Foreign (p : Platform) (username messageTag : String) : Json → Prop
  | .obj message => p.json.optString message "tag" ≠ messageTag ∨
      ∃ source, p.json.getString message "source" = .ok source ∧ source ≠ username
  | _ => False

/-- What a call stores for its contact and tag, deletes from the server and returns. -/
structure SameMessages (p : Platform) (username messageTag : String) (one other : Received) : Prop where
  stored : MessageStorage.getContactMessages p username messageTag one.files =
    MessageStorage.getContactMessages p username messageTag other.files
  deleted : one.deletes = other.deletes
  returned : one.returned = other.returned

/-- Nothing at an entry ends the loop: it passes, and an envelope that it has is processed to its end. -/
def Goes (p : Platform) (username messageTag : String) (decodeAndSave : Bool) (files : Files) (draw : Draw)
    (entry : Json) : Prop :=
  Passes p username messageTag decodeAndSave files entry ∧
    ((pulledEnvelope p username messageTag decodeAndSave entry files).isSome = true → draw.thrown true = none)

def entryFiles (p : Platform) (username messageTag : String) (decodeAndSave : Bool) (files : Files) (draw : Draw)
    (entry : Json) : Files :=
  match pulledEnvelope p username messageTag decodeAndSave entry files with
  | none => files
  | some envelope => (processEnvelope true p envelope messageTag draw files).files

/-- The loop comes to an entry for which something holds, past entries at which nothing ends it. -/
def Comes (p : Platform) (username messageTag : String) (decodeAndSave : Bool) (draws : Nat → Draw)
    (holds : Files → Draw → Json → Prop) : Nat → List Json → Files → Prop
  | _, [], _ => False
  | i, entry :: later, files => holds files (draws i) entry ∨
      (Goes p username messageTag decodeAndSave files (draws i) entry ∧
        Comes p username messageTag decodeAndSave draws holds (i + 1) later
          (entryFiles p username messageTag decodeAndSave files (draws i) entry))

/-- The loop comes to an entry that ends it, past entries that have no envelope. -/
def StopsIdle (p : Platform) (username messageTag : String) (decodeAndSave : Bool) (draws : Nat → Draw) (files : Files) :
    Nat → List Json → Prop
  | _, [] => False
  | i, entry :: later => ¬ Goes p username messageTag decodeAndSave files (draws i) entry ∨
      (pulledEnvelope p username messageTag decodeAndSave entry files = none ∧
        StopsIdle p username messageTag decodeAndSave draws files (i + 1) later)

theorem pullEntry_ok_iff (entry : Json) (draw : Draw) (state : Pull) :
    (pullEntry p username messageTag decodeAndSave entry draw state).1 = .ok () ↔
      Goes p username messageTag decodeAndSave state.files draw entry := by
  unfold Goes
  have entered := @pullEntry_entered p username messageTag decodeAndSave entry draw state
  generalize pullEntry p username messageTag decodeAndSave entry draw state = outcome at entered
  cases entered with
  | skipped unread passes nothing => simp [passes, nothing]
  | stopped unread e blocked nothing breaks => simp [blocked]
  | opened unread envelope passes pulled =>
    rcases @pullEnvelope_thrown p envelope messageTag draw { state with unread } with
      ⟨handled, done, _, returns⟩ | ⟨e, failed, _, thrown⟩
    · simp [done, passes, returns]
    · simp [failed, pulled, thrown]

theorem pullLoop_comes_iff {kind : Thrown → Prop} {holds : Files → Draw → Json → Prop} (draws : Nat → Draw)
    (ends : ∀ entry draw (state : Pull),
      (∃ e, (pullEntry p username messageTag decodeAndSave entry draw state).1 = .error e ∧ kind e) ↔
        holds state.files draw entry) (i : Nat) (entries : List Json) (state : Pull) :
    (∃ e, (pullLoop p username messageTag decodeAndSave draws i entries state).1 = some e ∧ kind e) ↔
      Comes p username messageTag decodeAndSave draws holds i entries state.files := by
  induction entries generalizing i state with
  | nil => simp [pullLoop, Comes]
  | cons entry entries ih =>
    have first := ends entry (draws i) state
    have goes := @pullEntry_ok_iff p username messageTag decodeAndSave entry (draws i) state
    have left : (pullEntry p username messageTag decodeAndSave entry (draws i) state).2.files =
        entryFiles p username messageTag decodeAndSave state.files (draws i) entry := pullEntry_files ..
    rw [pullLoop, Comes, ← first, ← goes, ← left]
    cases pullEntry p username messageTag decodeAndSave entry (draws i) state with
    | mk result after =>
      cases result with
      | error e => simp
      | ok done => simpa using ih (i + 1) after

theorem pullLoop_stops_iff (draws : Nat → Draw) (i : Nat) (entries : List Json) (state : Pull) :
    (pullLoop p username messageTag decodeAndSave draws i entries state).1 ≠ none ↔
      Comes p username messageTag decodeAndSave draws
        (fun files draw entry => ¬ Goes p username messageTag decodeAndSave files draw entry) i entries state.files := by
  rw [← @pullLoop_comes_iff p username messageTag decodeAndSave (fun _ => True) _ draws ?_ i entries state]
  · simp [Option.ne_none_iff_exists']
  · intro entry draw state
    rw [← pullEntry_ok_iff]
    cases (pullEntry p username messageTag decodeAndSave entry draw state).1 <;> simp

theorem pullLoop_stopsIdle_iff (draws : Nat → Draw) (i : Nat) (entries : List Json) (state : Pull) :
    ((pullLoop p username messageTag decodeAndSave draws i entries state).1 ≠ none ∧
        (pullLoop p username messageTag decodeAndSave draws i entries state).2.handled = state.handled) ↔
      StopsIdle p username messageTag decodeAndSave draws state.files i entries := by
  induction entries generalizing i state with
  | nil => simp [pullLoop, StopsIdle]
  | cons entry entries ih =>
    have goes := @pullEntry_ok_iff p username messageTag decodeAndSave entry (draws i) state
    rw [pullLoop, StopsIdle, ← goes]
    have entered := @pullEntry_entered p username messageTag decodeAndSave entry (draws i) state
    generalize pullEntry p username messageTag decodeAndSave entry (draws i) state = outcome at entered
    cases entered with
    | skipped unread passes nothing => simpa [nothing] using ih (i + 1) { state with unread }
    | stopped unread e blocked nothing breaks => simp
    | opened unread envelope passes pulled =>
      rcases @pullEnvelope_thrown p envelope messageTag (draws i) { state with unread } with
        ⟨handled, done, grown, _⟩ | ⟨e, failed, same, _⟩
      · cases round : pullEnvelope p envelope messageTag (draws i) { state with unread } with
        | mk result after =>
          rw [round] at done grown
          cases done
          -- what is handled stays handled
          obtain ⟨more, appended, _⟩ := @pullLoop_handles p username messageTag decodeAndSave draws (i + 1) entries after
          have longer := congrArg List.length (appended.trans (congrArg (· ++ more) grown))
          simp only [List.length_append, List.length_singleton] at longer
          apply iff_of_false
          · rintro ⟨_, idle⟩
            rw [show (pullLoop p username messageTag decodeAndSave draws (i + 1) entries after).2.handled = state.handled
              from idle] at longer
            omega
          · simp [pulled]
      · cases round : pullEnvelope p envelope messageTag (draws i) { state with unread } with
        | mk result after =>
          rw [round] at failed same
          cases failed
          exact iff_of_true ⟨by simp, same⟩ (.inl (by simp))

theorem pullLoop_append (draws : Nat → Draw) (i : Nat) (first second : List Json) (state : Pull) :
    pullLoop p username messageTag decodeAndSave draws i (first ++ second) state =
      if (pullLoop p username messageTag decodeAndSave draws i first state).1 = none then
        pullLoop p username messageTag decodeAndSave draws (i + first.length) second
          (pullLoop p username messageTag decodeAndSave draws i first state).2
      else pullLoop p username messageTag decodeAndSave draws i first state := by
  induction first generalizing i state with
  | nil => rfl
  | cons entry first ih =>
    rw [List.cons_append, pullLoop, pullLoop]
    cases pullEntry p username messageTag decodeAndSave entry (draws i) state with
    | mk result later =>
      cases result with
      | error e => rfl
      | ok done =>
        have shifted : i + (entry :: first).length = i + 1 + first.length := by
          rw [List.length_cons]
          omega
        rw [shifted]
        exact ih (i + 1) later

theorem pullLoop_draws {draws other : Nat → Draw} {i j : Nat} (entries : List Json) (state : Pull)
    (same : ∀ k, k < entries.length → draws (i + k) = other (j + k)) :
    pullLoop p username messageTag decodeAndSave draws i entries state =
      pullLoop p username messageTag decodeAndSave other j entries state := by
  induction entries generalizing i j state with
  | nil => rfl
  | cons entry entries ih =>
    have first : draws i = other j := same 0 (by simp)
    rw [pullLoop, pullLoop, first]
    cases pullEntry p username messageTag decodeAndSave entry (other j) state with
    | mk result later =>
      cases result with
      | error e => rfl
      | ok done =>
        refine ih later fun k below => ?_
        have next := same (k + 1) (by simpa using below)
        rw [Nat.add_assoc, Nat.add_assoc, Nat.add_comm 1 k]
        exact next

theorem pullMessage_counted (source messageString tag : String) (serverTimestamp : Int) (draw : Draw) (state : Pull)
    (unread : JSONObject) :
    pullMessage p source messageString tag serverTimestamp draw { state with unread } =
      ((pullMessage p source messageString tag serverTimestamp draw state).1,
        { (pullMessage p source messageString tag serverTimestamp draw state).2 with unread }) := by
  unfold pullMessage
  cases decodeBase64 p messageString with
  | error e => rfl
  | ok ciphertext =>
    dsimp only [pullEnvelope]
    cases (processEnvelope true p ⟨source, serverTimestamp, ciphertext⟩ tag draw state.files).result <;> rfl

theorem pullEntry_counted (entry : Json) (draw : Draw) (state : Pull) (unread : JSONObject) :
    ∃ later, pullEntry p username messageTag decodeAndSave entry draw { state with unread } =
      ((pullEntry p username messageTag decodeAndSave entry draw state).1,
        { (pullEntry p username messageTag decodeAndSave entry draw state).2 with unread := later }) := by
  unfold pullEntry
  dsimp only
  split
  · exact ⟨unread, rfl⟩
  · rename_i message messageString source fields
    by_cases tagged : messageTag = p.json.optString message "tag"
    · rw [if_pos tagged, if_pos tagged]
      cases p.json.getString message "type" with
      | error e => exact ⟨unread, rfl⟩
      | ok type =>
        dsimp only
        obtain ⟨later, counted⟩ := counted_eq type source (p.json.optLong message "timestamp" 0) { state with unread }
        obtain ⟨alone, counted_alone⟩ := counted_eq type source (p.json.optLong message "timestamp" 0) state
        rw [counted, counted_alone]
        refine ⟨later, ?_⟩
        dsimp only
        split
        · rw [pullMessage_counted _ _ _ _ _ state later, pullMessage_counted _ _ _ _ _ state alone]
        · rfl
    · rw [if_neg tagged, if_neg tagged]
      exact ⟨unread, rfl⟩

theorem pullLoop_counted (draws : Nat → Draw) (i : Nat) (entries : List Json) (state : Pull) (unread : JSONObject) :
    ∃ later, pullLoop p username messageTag decodeAndSave draws i entries { state with unread } =
      ((pullLoop p username messageTag decodeAndSave draws i entries state).1,
        { (pullLoop p username messageTag decodeAndSave draws i entries state).2 with unread := later }) := by
  induction entries generalizing i state unread with
  | nil => exact ⟨unread, rfl⟩
  | cons entry entries ih =>
    obtain ⟨counted, first⟩ := @pullEntry_counted p username messageTag decodeAndSave entry (draws i) state unread
    rw [pullLoop, pullLoop, first]
    cases pullEntry p username messageTag decodeAndSave entry (draws i) state with
    | mk result after =>
      cases result with
      | error e => exact ⟨counted, rfl⟩
      | ok done => exact ih (i + 1) after counted

theorem pulledEnvelope_of_bad {entry : Json} (bad : Malformed p entry ∨ Foreign p username messageTag entry)
    (files : Files) : pulledEnvelope p username messageTag decodeAndSave entry files = none := by
  cases pulled : pulledEnvelope p username messageTag decodeAndSave entry files with
  | none => rfl
  | some envelope =>
    obtain ⟨message, text, type, _, rfl, sent, named, typed, tagged, _, _, decoded, _⟩ := pulledEnvelope_fields pulled
    simp [Malformed, Foreign, sent, named, typed, tagged, decoded] at bad

/-- An entry that is malformed or foreign is counted at most, and the loop stops at it unless it passes. -/
theorem pullEntry_bad (entry : Json) (draw : Draw) (state : Pull)
    (bad : Malformed p entry ∨ Foreign p username messageTag entry) :
    ∃ unread, (pullEntry p username messageTag decodeAndSave entry draw state).2 = { state with unread } ∧
      ((pullEntry p username messageTag decodeAndSave entry draw state).1 = .ok () ↔
        Passes p username messageTag decodeAndSave state.files entry) := by
  have entered := @pullEntry_entered p username messageTag decodeAndSave entry draw state
  generalize pullEntry p username messageTag decodeAndSave entry draw state = outcome at entered
  cases entered with
  | skipped unread passes nothing => exact ⟨unread, rfl, iff_of_true rfl passes⟩
  | stopped unread e blocked nothing breaks => exact ⟨unread, rfl, iff_of_false (by simp) blocked⟩
  | opened unread envelope passes pulled => cases pulled.symm.trans (pulledEnvelope_of_bad bad state.files)

theorem directory_of_session {address : SignalProtocolAddress} {files : Files}
    (session : ProtocolStorage.containsSession p address files = true) :
    files.tree.stat (ProtocolStorage.directory p) = some .dir := by
  have stored : files.tree.contents (ProtocolStorage.StorageFile.SESSIONS_JSON_FILENAME.path p) ≠ none := by
    intro absent
    have nothing : ProtocolStorage.readObject p .SESSIONS_JSON_FILENAME files = .ok [] := by
      rw [ProtocolStorage.readObject_eq, absent]
      rfl
    rw [ProtocolStorage.containsSession, ProtocolStorage.loadSession, ProtocolStorage.loadRecord_eq,
      ProtocolStorage.entry, nothing] at session
    cases session
  exact ProtocolStorage.directory_of_contents stored

theorem pullEnvelope_cases (envelope : Envelope) (tag : String) (draw : Draw) {state : Pull}
    (dir : state.files.tree.stat (ProtocolStorage.directory p) = some .dir) :
    ((∃ e, (pullEnvelope p envelope tag draw state).1 = .error e) ∧
      ∀ contact tag', MessageStorage.getContactMessages p contact tag' (pullEnvelope p envelope tag draw state).2.files =
        MessageStorage.getContactMessages p contact tag' state.files) ∨
    ∃ handled, (pullEnvelope p envelope tag draw state).2.handled = state.handled ++ [handled] := by
  unfold pullEnvelope
  dsimp only
  obtain ⟨upkeep, kept⟩ := upkeep_processEnvelope true p envelope tag draw state.files
  cases done : (processEnvelope true p envelope tag draw state.files).result with
  | ok message => exact .inr ⟨_, rfl⟩
  | error e =>
    refine .inl ⟨⟨e, rfl⟩, fun contact tag' => ?_⟩
    dsimp only
    rw [kept (by rw [done]; rfl)]
    exact MessageStorage.getContactMessages_eq (MessageStorage.readFromStorage_framed upkeep.framed dir ..)

theorem pullEntry_cases (entry : Json) (draw : Draw) (state : Pull) :
    (∃ unread, pullEntry p username messageTag decodeAndSave entry draw state = (.ok (), { state with unread })) ∨
    ((∃ e, (pullEntry p username messageTag decodeAndSave entry draw state).1 = .error e) ∧
      ∀ contact tag, MessageStorage.getContactMessages p contact tag
        (pullEntry p username messageTag decodeAndSave entry draw state).2.files =
          MessageStorage.getContactMessages p contact tag state.files) ∨
    ∃ handled, (pullEntry p username messageTag decodeAndSave entry draw state).2.handled = state.handled ++ [handled] := by
  cases pulled : pulledEnvelope p username messageTag decodeAndSave entry state.files with
  | none =>
    obtain ⟨unread, result, skipped⟩ := pullEntry_without_envelope pulled draw
    rw [skipped]
    cases result with
    | error e => exact .inr (.inl ⟨⟨e, rfl⟩, fun _ _ => rfl⟩)
    | ok done => exact .inl ⟨unread, rfl⟩
  | some envelope =>
    obtain ⟨unread, decrypted⟩ := pullEntry_of_envelope pulled draw
    obtain ⟨_, session, _⟩ := pulledEnvelope_eq_some pulled
    rw [decrypted]
    exact .inr (pullEnvelope_cases envelope messageTag draw (directory_of_session session))

theorem pullLoop_histories (draws : Nat → Draw) (i : Nat) (entries : List Json) (state : Pull)
    (idle : (pullLoop p username messageTag decodeAndSave draws i entries state).2.handled = state.handled)
    (contact tag : String) :
    MessageStorage.getContactMessages p contact tag
        (pullLoop p username messageTag decodeAndSave draws i entries state).2.files =
      MessageStorage.getContactMessages p contact tag state.files := by
  induction entries generalizing i state with
  | nil => rfl
  | cons entry entries ih =>
    rw [pullLoop] at idle ⊢
    rcases @pullEntry_cases p username messageTag decodeAndSave entry (draws i) state with
      ⟨unread, counted⟩ | ⟨⟨e, stops⟩, kept⟩ | ⟨handled, grown⟩
    · rw [counted] at idle ⊢
      exact ih (i + 1) { state with unread } idle
    · cases round : pullEntry p username messageTag decodeAndSave entry (draws i) state with
      | mk result after =>
        rw [round] at stops kept
        cases stops
        exact kept contact tag
    · cases round : pullEntry p username messageTag decodeAndSave entry (draws i) state with
      | mk result after =>
        rw [round] at grown idle
        have onward : after.handled <+: state.handled := by
          cases result with
          | error e => exact idle ▸ List.prefix_rfl
          | ok done =>
            obtain ⟨more, appended, _⟩ :=
              @pullLoop_handles p username messageTag decodeAndSave draws (i + 1) entries after
            exact ⟨more, appended.symm.trans idle⟩
        have shorter := onward.length_le
        have longer : after.handled.length = state.handled.length + 1 := by
          rw [show after.handled = state.handled ++ [handled] from grown, List.length_append]
          rfl
        omega

theorem getContactMessages_answered (response : Response) (draws : Nat → Draw) (files : Files) :
    getContactMessages p username messageTag decodeAndSave (.answered response) draws files =
      ⟨pullSettlement p (pulled p username messageTag decodeAndSave draws (queueOf p response) files).1
          (pulled p username messageTag decodeAndSave draws (queueOf p response) files).2,
        (pulled p username messageTag decodeAndSave draws (queueOf p response) files).2.files,
        (pulled p username messageTag decodeAndSave draws (queueOf p response) files).2.handled,
        (pulled p username messageTag decodeAndSave draws (queueOf p response) files).2.deletes⟩ := rfl

theorem returned_eq (ended : Option Thrown) (state : Pull) (files : Files) (handled : List Handled)
    (deletes : List String) :
    Received.returned ⟨pullSettlement p ended state, files, handled, deletes⟩ =
      if ended = none then some (handled.filterMap Handled.message) else none := by
  cases ended with
  | none => rfl
  | some e =>
    by_cases caught : e ∈ [.json, .io, .noSession, .nullPointer]
    · rw [Received.returned, pullSettlement, if_pos caught]
      rfl
    · rw [Received.returned, pullSettlement, if_neg caught]
      rfl

theorem pullEntry_received (entry : Json) (draw : Draw) {state : Pull}
    (received : state.received = state.handled.filterMap Handled.message) :
    (pullEntry p username messageTag decodeAndSave entry draw state).2.received =
      (pullEntry p username messageTag decodeAndSave entry draw state).2.handled.filterMap Handled.message := by
  cases pulled : pulledEnvelope p username messageTag decodeAndSave entry state.files with
  | none =>
    obtain ⟨unread, result, skipped⟩ := pullEntry_without_envelope pulled draw
    rw [skipped]
    exact received
  | some envelope =>
    obtain ⟨unread, decrypted⟩ := pullEntry_of_envelope pulled draw
    rw [decrypted, pullEnvelope]
    dsimp only
    split
    · exact received
    · rename_i stored _
      cases stored <;> simp [received]

theorem pullLoop_received (draws : Nat → Draw) (i : Nat) (entries : List Json) {state : Pull}
    (received : state.received = state.handled.filterMap Handled.message) :
    (pullLoop p username messageTag decodeAndSave draws i entries state).2.received =
      (pullLoop p username messageTag decodeAndSave draws i entries state).2.handled.filterMap Handled.message := by
  induction entries generalizing i state with
  | nil => exact received
  | cons entry entries ih =>
    have next := @pullEntry_received p username messageTag decodeAndSave entry (draws i) state received
    rw [pullLoop]
    cases round : pullEntry p username messageTag decodeAndSave entry (draws i) state with
    | mk result after =>
      rw [round] at next
      cases result with
      | error e => exact next
      | ok done => exact ih (i + 1) next

theorem settlement_of_returned {response : Response} {draws : Nat → Draw} {files : Files} {messages : List Json}
    (returned : (getContactMessages p username messageTag decodeAndSave (.answered response) draws files).returned =
      some messages) :
    ∃ unread, (getContactMessages p username messageTag decodeAndSave (.answered response) draws files).settlement =
      some (.resolve (String.ofList (p.json.print (.obj ([("unread", .obj unread)] ++
        if messages ≠ [] then [("messages", .arr messages)] else []))))) := by
  have received : (pulled p username messageTag decodeAndSave draws (queueOf p response) files).2.received =
      (pulled p username messageTag decodeAndSave draws (queueOf p response) files).2.handled.filterMap Handled.message :=
    pullLoop_received draws 0 _ rfl
  rw [getContactMessages_answered] at returned ⊢
  rw [returned_eq, ← received] at returned
  split at returned
  · rename_i goes
    cases returned
    exact ⟨_, by rw [goes, pullSettlement]⟩
  · cases returned

theorem sameMessages_of_counted {one other : Option Thrown × Pull} {unread : JSONObject}
    (same : one = (other.1, { other.2 with unread })) :
    SameMessages p username messageTag ⟨pullSettlement p one.1 one.2, one.2.files, one.2.handled, one.2.deletes⟩
      ⟨pullSettlement p other.1 other.2, other.2.files, other.2.handled, other.2.deletes⟩ := by
  subst same
  exact ⟨rfl, rfl, by rw [returned_eq, returned_eq]⟩

/-- A loop that was stopped has done what the loop over the later entries does if that is stopped as well, before it
    handles anything. -/
theorem sameMessages_stopped_iff (e : Thrown) (state : Pull) (unread : JSONObject) (draws : Nat → Draw) (i : Nat)
    (later : List Json) :
    SameMessages p username messageTag
        ⟨pullSettlement p (some e) { state with unread }, state.files, state.handled, state.deletes⟩
        ⟨pullSettlement p (pullLoop p username messageTag decodeAndSave draws i later state).1
            (pullLoop p username messageTag decodeAndSave draws i later state).2,
          (pullLoop p username messageTag decodeAndSave draws i later state).2.files,
          (pullLoop p username messageTag decodeAndSave draws i later state).2.handled,
          (pullLoop p username messageTag decodeAndSave draws i later state).2.deletes⟩ ↔
      (pullLoop p username messageTag decodeAndSave draws i later state).1 ≠ none ∧
        (pullLoop p username messageTag decodeAndSave draws i later state).2.handled = state.handled := by
  obtain ⟨more, handled, deletes, _⟩ := @pullLoop_handles p username messageTag decodeAndSave draws i later state
  constructor
  · intro ⟨_, deleted, returned⟩
    rw [returned_eq, returned_eq, if_neg (by simp)] at returned
    refine ⟨fun goes => by simp [goes] at returned, ?_⟩
    have none_deleted : state.deletes = state.deletes ++
        more.map (fun handled => deleteUrl handled.envelope.source handled.envelope.timestamp) := deleted.trans deletes
    have none_handled : more = [] := by simpa using none_deleted
    rw [handled, none_handled, List.append_nil]
  · intro ⟨ended, idle⟩
    have none_handled : more = [] := by simpa [idle] using handled
    refine ⟨(pullLoop_histories draws i later state idle username messageTag).symm, ?_, ?_⟩
    · simp [deletes, none_handled]
    · rw [returned_eq, returned_eq, if_neg (by simp), if_neg ended]

theorem pulled_append (draws : Nat → Draw) (first second : List Json) (files : Files) :
    pulled p username messageTag decodeAndSave draws (first ++ second) files =
      if (pulled p username messageTag decodeAndSave draws first files).1 = none then
        pullLoop p username messageTag decodeAndSave draws first.length second
          (pulled p username messageTag decodeAndSave draws first files).2
      else pulled p username messageTag decodeAndSave draws first files := by
  rw [pulled, pullLoop_append, Nat.zero_add]
  rfl

/-- A queue with an entry that is malformed or foreign is stored, deleted and returned like the queue without it, if the
    loop does not stop at the entry; otherwise only if it would have stopped before the entry, or after it before it
    handled anything. -/
theorem bad_entry_is_harmless_iff (p : Platform) (username messageTag : String) (decodeAndSave : Bool)
    (queue later : List Json) (entry : Json) (bad : Malformed p entry ∨ Foreign p username messageTag entry)
    (longer shorter : Response) (with_entry : queueOf p longer = queue ++ entry :: later)
    (without_entry : queueOf p shorter = queue ++ later) (draws : Nat → Draw) (files : Files) :
    SameMessages p username messageTag
        (getContactMessages p username messageTag decodeAndSave (.answered longer) draws files)
        (getContactMessages p username messageTag decodeAndSave (.answered shorter) (without queue.length draws) files) ↔
      Comes p username messageTag decodeAndSave draws
        (fun files draw entry => ¬ Goes p username messageTag decodeAndSave files draw entry) 0 queue files ∨
      Passes p username messageTag decodeAndSave (pulled p username messageTag decodeAndSave draws queue files).2.files
        entry ∨
      StopsIdle p username messageTag decodeAndSave (without queue.length draws)
        (pulled p username messageTag decodeAndSave draws queue files).2.files queue.length later := by
  have earlier : pulled p username messageTag decodeAndSave (without queue.length draws) queue files =
      pulled p username messageTag decodeAndSave draws queue files :=
    pullLoop_draws queue _ fun k below => if_pos (by omega)
  have onward : ∀ state, pullLoop p username messageTag decodeAndSave draws (queue.length + 1) later state =
      pullLoop p username messageTag decodeAndSave (without queue.length draws) queue.length later state := by
    intro state
    refine pullLoop_draws later state fun k _ => ?_
    rw [without, if_neg (by omega)]
    congr 1
    omega
  have stops := @pullLoop_stops_iff p username messageTag decodeAndSave draws 0 queue ⟨files, [], [], [], []⟩
  rw [getContactMessages_answered, getContactMessages_answered, with_entry, without_entry, pulled_append, pulled_append,
    earlier, ← pullLoop_stopsIdle_iff, ← stops, ← pulled]
  cases pulled p username messageTag decodeAndSave draws queue files with
  | mk ended before =>
    cases ended with
    | some e => exact iff_of_true ⟨rfl, rfl, rfl⟩ (.inl (by simp))
    | none =>
      rw [if_pos rfl, if_pos rfl, pullLoop]
      obtain ⟨unread, counted, passing⟩ :=
        @pullEntry_bad p username messageTag decodeAndSave entry (draws queue.length) before bad
      cases round : pullEntry p username messageTag decodeAndSave entry (draws queue.length) before with
      | mk result after =>
        rw [round] at counted passing
        cases counted
        cases result with
        | ok done =>
          refine iff_of_true ?_ (.inr (.inl (passing.mp rfl)))
          obtain ⟨unread_later, same⟩ := @pullLoop_counted p username messageTag decodeAndSave
            (without queue.length draws) queue.length later before unread
          exact sameMessages_of_counted ((onward _).trans same)
        | error e =>
          have stops : ¬ Passes p username messageTag decodeAndSave before.files entry := fun passes =>
            absurd (passing.mpr passes) (by simp)
          rw [sameMessages_stopped_iff]
          simp [stops]

section Queues

/-- A queue with `entry` before a message of the contact. -/
def behind (entry : String) : Response :=
  ⟨200, some ("\x7b\"messages\":[" ++ entry ++ "\x7b\"message\":\"m\",\"source\":\"bob\"," ++
    "\"timestamp\":5,\"tag\":\"chat\",\"type\":1\x7d]\x7d").toList⟩

theorem foreign_entry_is_harmless :
    SameMessages .plain "bob" "chat"
      (getContactMessages .plain "bob" "chat" true
        (.answered (behind "\x7b\"message\":\"m\",\"source\":\"carol\",\"tag\":\"chat\",\"type\":1\x7d,"))
        (fun _ => undecryptable) (bobFiles "[]"))
      (getContactMessages .plain "bob" "chat" true (.answered (behind "")) (without 0 fun _ => undecryptable)
        (bobFiles "[]")) := by
  refine (bad_entry_is_harmless_iff .plain "bob" "chat" true [] [.obj Plain.bobEntry]
    (.obj [("message", .str "m"), ("source", .str "carol"), ("tag", .str "chat"), ("type", .num 1)])
    (.inr (.inr ⟨"carol", by decide +kernel, by decide⟩)) _ _ (by decide +kernel) (by decide +kernel) _ _).mpr
    (.inr (.inl ⟨"m", "carol", by decide +kernel, by decide +kernel, fun _ => ⟨⟨"1", by decide +kernel⟩, ?_⟩⟩))
  intro named
  exact absurd named (by decide)

/-- An entry without a message is met before the message of the contact: nothing is stored, deleted or returned, and the
    entry stays where it is. -/
theorem empty_entry_blocks_the_queue :
    Malformed .plain (.obj []) ∧ queueOf .plain (behind "\x7b\x7d,") = [] ++ .obj [] :: [.obj Plain.bobEntry] ∧
      queueOf .plain (behind "") = [] ++ [.obj Plain.bobEntry] ∧
      let blocked := getContactMessages .plain "bob" "chat" true (.answered (behind "\x7b\x7d,"))
        (fun _ => undecryptable) (bobFiles "[]")
      let free := getContactMessages .plain "bob" "chat" true (.answered (behind "")) (fun _ => undecryptable)
        (bobFiles "[]")
      blocked.settlement = some (nativeFailed .json) ∧ blocked.deletes = [] ∧
        MessageStorage.getContactMessages .plain "bob" "chat" blocked.files = [] ∧
        free.deletes = ["/v1/messages/bob/5"] ∧
        (MessageStorage.getContactMessages .plain "bob" "chat" free.files).length = 1 ∧
        free.returned.map List.length = some 1 := by
  refine ⟨.inl ⟨"message", by simp, .json, by decide +kernel⟩, by decide +kernel, by decide +kernel, ?_⟩
  decide +kernel

end Queues
end SignalClient
end PillarSignal.Android
