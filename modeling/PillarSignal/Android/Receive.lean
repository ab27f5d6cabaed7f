import PillarSignal.Android.Base64
import PillarSignal.Android.Decrypt

namespace PillarSignal.Android

open Storage

structure Handled where
  envelope : Envelope
  tag : String
  draw : Draw
  message : Option Json
  decrypted : Files

def Handled.after (p : Platform) (handled : Handled) : Files :=
  match handled.message with
  | none => handled.decrypted
  | some message =>
    MessageStorage.storeMessage p handled.envelope.source message handled.tag handled.decrypted

/-- A handled envelope has an entry for what the decryptions yielded, unless one of them reported a
    duplicate. -/
def Handled.Faithful (p : Platform) (handled : Handled) : Prop :=
  match handled.message with
  | none => handled.draw.attempts.reportedDuplicate = true
  | some message => handled.draw.attempts.reportedDuplicate = false ∧
      toMessageJSONO p handled.draw.attempts.plaintext handled.envelope.source 1 handled.envelope.timestamp
        handled.draw.currentTimeMillis = .ok message

/-- What receiving does to the files: between the entries that are stored, one for each handled
    envelope that is no duplicate, only protocol files change. -/
inductive Delivers (p : Platform) : Files → List Handled → Files → Prop where
  | done {before after : Files} (upkeep : ProtocolStorage.Upkeep p before after) : Delivers p before [] after
  | next {before after : Files} {handled : Handled} {later : List Handled}
      (upkeep : ProtocolStorage.Upkeep p before handled.decrypted) (faithful : handled.Faithful p)
      (rest : Delivers p (handled.after p) later after) : Delivers p before (handled :: later) after

theorem Delivers.append {p : Platform} {a b c : Files} {first second : List Handled} (left : Delivers p a first b)
    (right : Delivers p b second c) : Delivers p a (first ++ second) c := by
  induction left with
  | done upkeep =>
    cases right with
    | done more => exact .done (upkeep.trans more)
    | next more faithful rest => exact .next (upkeep.trans more) faithful rest
  | next upkeep faithful _ ih => exact .next upkeep faithful (ih right)

namespace SignalClient

variable (p : Platform)

def MESSAGE_TYPE_CIPHERTEXT : String := "1"

def URL_MESSAGES : String := "/v1/messages"

def deleteUrl (username : String) (timestamp : Int) : String :=
  URL_MESSAGES ++ "/" ++ username ++ "/" ++ valueOf timestamp

structure Pull where
  files : Files
  unread : JSONObject
  received : List Json
  handled : List Handled
  deletes : List String

def countMessage (serverTimestamp : Int) (unreadSource : JSONObject) : JSONObject :=
  let unreadCount := toInt (p.json.optInt unreadSource "count" 0 + 1)
  let latestTimestamp := p.json.optLong unreadSource "latest" 0
  let latestTimestamp := if serverTimestamp > latestTimestamp then serverTimestamp else latestTimestamp
  put "latest" (.num latestTimestamp) (put "count" (.num unreadCount) unreadSource)

def countUnread (source : String) (serverTimestamp : Int) (unread : JSONObject) : JSONObject :=
  put source (.obj (countMessage p serverTimestamp ((OrgJson.optJSONObject unread source).getD []))) unread

/-- `Base64.decode`, with what the source throws at a text that the platform's codec does not take. -/
def decodeBase64 (text : String) : Except Thrown Bytes :=
  match p.texts.bytes.decode text with
  | some bytes => .ok bytes
  | none => .error (Base64.thrown text)

def pullEnvelope (envelope : Envelope) (tag : String) (draw : Draw) (state : Pull) : Except Thrown Unit × Pull :=
  let processed := processEnvelope true p envelope tag draw state.files
  match processed.result with
  | .error e => (.error e, { state with files := processed.files })
  | .ok message => (.ok (), { state with
      files := processed.files
      received := state.received ++ message.toList
      handled := state.handled ++ [⟨envelope, tag, draw, message, processed.decrypted⟩]
      deletes := state.deletes ++ [deleteUrl envelope.source envelope.timestamp] })

def pullMessage (source messageString tag : String) (serverTimestamp : Int) (draw : Draw) (state : Pull) :
    Except Thrown Unit × Pull :=
  match decodeBase64 p messageString with
  | .error e => (.error e, state)
  | .ok ciphertext => pullEnvelope p ⟨source, serverTimestamp, ciphertext⟩ tag draw state

def pullEntry (username messageTag : String) (decodeAndSave : Bool) (entry : Json) (draw : Draw) (state : Pull) :
    Except Thrown Unit × Pull :=
  let fields : Except Thrown (JSONObject × String × String) := do
    let message ← match entry with
      | .obj members => .ok members
      | _ => .error .json
    pure (message, ← p.json.getString message "message", ← p.json.getString message "source")
  match fields with
  | .error e => (.error e, state)
  | .ok (message, messageString, source) =>
    let serverTimestamp := p.json.optLong message "timestamp" 0
    let tag := p.json.optString message "tag"
    if messageTag = tag then
      match p.json.getString message "type" with
      | .error e => (.error e, state)
      | .ok type =>
        let state := if MESSAGE_TYPE_CIPHERTEXT = type then
            { state with unread := countUnread p source serverTimestamp state.unread }
          else state
        if username = source ∧ ProtocolStorage.containsSession p ⟨source, 1⟩ state.files ∧ decodeAndSave ∧
            messageString ≠ "" then
          pullMessage p source messageString tag serverTimestamp draw state
        else (.ok (), state)
    else (.ok (), state)

/-- The first exception ends the loop; what was done before it stays. -/
def pullLoop (username messageTag : String) (decodeAndSave : Bool) (draws : Nat → Draw) :
    Nat → List Json → Pull → Option Thrown × Pull
  | _, [], state => (none, state)
  | i, entry :: entries, state =>
    match pullEntry p username messageTag decodeAndSave entry (draws i) state with
    | (.error e, state) => (some e, state)
    | (.ok _, state) => pullLoop username messageTag decodeAndSave draws (i + 1) entries state

structure Received where
  settlement : Option Settlement
  files : Files
  handled : List Handled
  deletes : List String

def pullSettlement (ended : Option Thrown) (state : Pull) : Option Settlement :=
  match ended with
  | none =>
    let promise := [("unread", Json.obj state.unread)] ++
      if state.received ≠ [] then [("messages", Json.arr state.received)] else []
    some (.resolve (String.ofList (p.json.print (.obj promise))))
  | some e => if e ∈ [.json, .io, .noSession, .nullPointer] then some (nativeFailed e) else none

def getContactMessages (username messageTag : String) (decodeAndSave : Bool) (exchange : Exchange)
    (draws : Nat → Draw) (files : Files) : Received :=
  match exchange with
  | .dropped => ⟨none, files, [], []⟩
  | .failed => ⟨some serverFailed, files, [], []⟩
  | .answered response =>
    let messages := (OrgJson.optJSONArray (ServerResponse.getResponseJSONObject p response) "messages").getD []
    let (ended, state) := pullLoop p username messageTag decodeAndSave draws 0 messages ⟨files, [], [], [], []⟩
    ⟨pullSettlement p ended state, state.files, state.handled, state.deletes⟩

def pushSettlement (e : Thrown) : Option Settlement :=
  if e ∈ [.json, .io, .noSession] then some (nativeFailed e) else none

def pushEnvelope (envelope : Envelope) (tag : String) (draw : Draw) (files : Files) : Received :=
  let processed := processEnvelope false p envelope tag draw files
  match processed.result with
  | .error e => ⟨pushSettlement e, processed.files, [], []⟩
  | .ok stored => ⟨some (.resolve "ok"), processed.files, [⟨envelope, tag, draw, stored, processed.decrypted⟩], []⟩

def decryptSignalMessage (messageTag : String) (receivedMessage : List Char) (draw : Draw) (files : Files) : Received :=
  let fields : Except Thrown (JSONObject × String × String) := do
    let message ← p.json.newJSONObject receivedMessage
    pure (message, ← p.json.getString message "legacyMessage", ← p.json.getString message "source")
  match fields with
  | .error e => ⟨pushSettlement e, files, [], []⟩
  | .ok (message, messageString, source) =>
    let serverTimestamp := p.json.optLong message "timestamp" 0
    if ProtocolStorage.containsSession p ⟨source, 1⟩ files ∧ messageString ≠ "" then
      match decodeBase64 p messageString with
      | .error e => ⟨pushSettlement e, files, [], []⟩
      | .ok ciphertext => pushEnvelope p ⟨source, serverTimestamp, ciphertext⟩ messageTag draw files
    else ⟨some (.resolve "ok"), files, [], []⟩

def pulledEnvelope (username messageTag : String) (decodeAndSave : Bool) (entry : Json) (files : Files) :
    Option Envelope :=
  match entry with
  | .obj message =>
    match p.json.getString message "message", p.json.getString message "source", p.json.getString message "type" with
    | .ok messageString, .ok source, .ok _ =>
      if messageTag = p.json.optString message "tag" ∧ username = source ∧
          ProtocolStorage.containsSession p ⟨source, 1⟩ files ∧ decodeAndSave ∧ messageString ≠ "" then
        (p.texts.bytes.decode messageString).map (⟨source, p.json.optLong message "timestamp" 0, ·⟩)
      else none
    | _, _, _ => none
  | _ => none

def pushedEnvelope (receivedMessage : List Char) (files : Files) : Option Envelope :=
  match p.json.newJSONObject receivedMessage with
  | .ok message =>
    match p.json.getString message "legacyMessage", p.json.getString message "source" with
    | .ok messageString, .ok source =>
      if ProtocolStorage.containsSession p ⟨source, 1⟩ files ∧ messageString ≠ "" then
        (p.texts.bytes.decode messageString).map (⟨source, p.json.optLong message "timestamp" 0, ·⟩)
      else none
    | _, _ => none
  | .error _ => none

/-- The text is no Base64, and decoding it throws what no handler of the client takes. -/
def BreaksBase64 (text : String) : Prop := p.texts.bytes.decode text = none ∧ ¬ Base64.Catchable text

instance (text : String) : Decidable (BreaksBase64 p text) := inferInstanceAs (Decidable (_ ∧ _))

theorem decodeBase64_of_some {p : Platform} {text : String} {bytes : Bytes} (decoded : p.texts.bytes.decode text = some bytes) :
    decodeBase64 p text = .ok bytes := by
  rw [decodeBase64, decoded]

theorem decodeBase64_of_none {p : Platform} {text : String} (undecoded : p.texts.bytes.decode text = none) :
    decodeBase64 p text = .error (Base64.thrown text) ∧ (BreaksBase64 p text ↔ Base64.thrown text ≠ .io) := by
  rw [decodeBase64, undecoded, BreaksBase64, ne_eq, Base64.thrown_eq_io_iff]
  exact ⟨rfl, and_iff_right undecoded⟩

theorem decodeBase64_codec {p : Platform} (source : p.texts.bytes = Base64.codec) (text : String) :
    decodeBase64 p text = Base64.decode text := by
  have decoded : p.texts.bytes.decode text = (Base64.decode text).toOption := by rw [source]; rfl
  rw [decodeBase64, decoded, Base64.thrown]
  cases Base64.decode text <;> rfl

/-- An entry at which the loop does not stop: message and source can be read, for the tag of the call the type as well,
    and for the contact of the call the Base64 of a message that is to be decrypted. -/
def Passes (p : Platform) (username messageTag : String) (decodeAndSave : Bool) (files : Files) : Json → Prop
  | .obj message => ∃ text source, p.json.getString message "message" = .ok text ∧
      p.json.getString message "source" = .ok source ∧
      (p.json.optString message "tag" = messageTag → (∃ type, p.json.getString message "type" = .ok type) ∧
        (source = username → ProtocolStorage.containsSession p ⟨source, 1⟩ files = true → decodeAndSave = true →
          text ≠ "" → (p.texts.bytes.decode text).isSome))
  | _ => False

/-- An entry of the contact and the tag, to be decrypted, whose text breaks the Base64. -/
def Breaks (p : Platform) (username messageTag : String) (decodeAndSave : Bool) (files : Files) : Json → Prop
  | .obj message => ∃ text, p.json.getString message "message" = .ok text ∧
      p.json.getString message "source" = .ok username ∧ (∃ type, p.json.getString message "type" = .ok type) ∧
      p.json.optString message "tag" = messageTag ∧ ProtocolStorage.containsSession p ⟨username, 1⟩ files = true ∧
      decodeAndSave = true ∧ text ≠ "" ∧ BreaksBase64 p text
  | _ => False

theorem processed_delivers (nullCaught : Bool) (envelope : Envelope) (tag : String) (draw : Draw) (files : Files)
    {message : Option Json} (done : (processEnvelope nullCaught p envelope tag draw files).result = .ok message) :
    Delivers p files [⟨envelope, tag, draw, message, (processEnvelope nullCaught p envelope tag draw files).decrypted⟩]
      (processEnvelope nullCaught p envelope tag draw files).files := by
  have upkeep := (upkeep_processEnvelope nullCaught p envelope tag draw files).1
  rcases processEnvelope_ok done with ⟨rfl, duplicate, same⟩ | ⟨entry, rfl, fresh, made, stored⟩
  · refine .next upkeep duplicate ?_
    rw [same]
    exact .done .refl
  · refine .next upkeep ⟨fresh, made⟩ ?_
    rw [stored]
    exact .done .refl

theorem failed_delivers (nullCaught : Bool) (envelope : Envelope) (tag : String) (draw : Draw) (files : Files)
    {e : Thrown} (failed : (processEnvelope nullCaught p envelope tag draw files).result = .error e) :
    Delivers p files [] (processEnvelope nullCaught p envelope tag draw files).files := by
  have spec := upkeep_processEnvelope nullCaught p envelope tag draw files
  rw [spec.2 (by rw [failed]; rfl)]
  exact .done spec.1

def Handles (username messageTag : String) (before after : Pull) : Prop :=
  ∃ more, after.handled = before.handled ++ more ∧
    after.deletes = before.deletes ++
      more.map (fun handled => deleteUrl handled.envelope.source handled.envelope.timestamp) ∧
    (∀ handled ∈ more, handled.envelope.source = username ∧ handled.tag = messageTag) ∧
    Delivers p before.files more after.files

variable {p} {username messageTag : String}

theorem Handles.idle (before : Pull) (unread : JSONObject) :
    Handles p username messageTag before { before with unread } :=
  ⟨[], by simp, by simp, by simp, .done .refl⟩

theorem Handles.trans {a b c : Pull} (left : Handles p username messageTag a b)
    (right : Handles p username messageTag b c) : Handles p username messageTag a c := by
  obtain ⟨first, handled, deletes, asked, delivers⟩ := left
  obtain ⟨second, handled', deletes', asked', delivers'⟩ := right
  refine ⟨first ++ second, by rw [handled', handled, List.append_assoc], ?_, ?_, delivers.append delivers'⟩
  · rw [deletes', deletes, List.map_append, List.append_assoc]
  · intro one member
    rcases List.mem_append.mp member with member | member
    · exact asked one member
    · exact asked' one member

theorem counted_eq (type source : String) (serverTimestamp : Int) (state : Pull) :
    ∃ unread, (if MESSAGE_TYPE_CIPHERTEXT = type then
      { state with unread := countUnread p source serverTimestamp state.unread } else state) = { state with unread } := by
  split
  · exact ⟨_, rfl⟩
  · exact ⟨state.unread, rfl⟩

/-- What an entry comes to: it is counted at most, the loop stops at it, or it has an envelope that is decrypted. -/
inductive Entered (decodeAndSave : Bool) (entry : Json) (draw : Draw) (state : Pull) : Except Thrown Unit × Pull → Prop where
  | skipped (unread : JSONObject) (passes : Passes p username messageTag decodeAndSave state.files entry)
      (nothing : pulledEnvelope p username messageTag decodeAndSave entry state.files = none) :
      Entered decodeAndSave entry draw state (.ok (), { state with unread })
  | stopped (unread : JSONObject) (e : Thrown) (blocked : ¬ Passes p username messageTag decodeAndSave state.files entry)
      (nothing : pulledEnvelope p username messageTag decodeAndSave entry state.files = none)
      (breaks : Breaks p username messageTag decodeAndSave state.files entry ↔ e ∉ [.json, .io, .noSession, .nullPointer]) :
      Entered decodeAndSave entry draw state (.error e, { state with unread })
  | opened (unread : JSONObject) (envelope : Envelope)
      (passes : Passes p username messageTag decodeAndSave state.files entry)
      (pulled : pulledEnvelope p username messageTag decodeAndSave entry state.files = some envelope) :
      Entered decodeAndSave entry draw state (pullEnvelope p envelope messageTag draw { state with unread })

theorem pullEntry_entered (decodeAndSave : Bool) (entry : Json) (draw : Draw) (state : Pull) :
    @Entered p username messageTag decodeAndSave entry draw state
      (pullEntry p username messageTag decodeAndSave entry draw state) := by
  have json : ∀ {members : JSONObject} {name : String} {e : Thrown}, p.json.getString members name = .error e →
      e = .json := fun failed => p.json.getString_error failed
  unfold pullEntry
  cases entry with
  | obj message =>
    dsimp only [bind, Except.bind, pure, Except.pure]
    cases sent : p.json.getString message "message" with
    | error e =>
      cases json sent
      exact .stopped state.unread .json (by simp [Passes, sent]) (by simp [pulledEnvelope, sent])
        (by simp [Breaks, sent])
    | ok messageString =>
      cases named : p.json.getString message "source" with
      | error e =>
        cases json named
        exact .stopped state.unread .json (by simp [Passes, named]) (by simp [pulledEnvelope, sent, named])
          (by simp [Breaks, named])
      | ok source =>
        dsimp only
        by_cases tagged : messageTag = p.json.optString message "tag"
        · rw [if_pos tagged]
          cases typed : p.json.getString message "type" with
          | error e =>
            cases json typed
            exact .stopped state.unread .json (by simp [Passes, sent, named, typed, tagged])
              (by simp [pulledEnvelope, sent, named, typed]) (by simp [Breaks, typed])
          | ok type =>
            obtain ⟨unread, counted⟩ := counted_eq type source (p.json.optLong message "timestamp" 0) state
            dsimp only
            rw [counted]
            split
            · rename_i chosen
              obtain ⟨rfl, session, saving, written⟩ := chosen
              rw [pullMessage]
              cases decoded : p.texts.bytes.decode messageString with
              | none =>
                obtain ⟨failed, breaks⟩ := decodeBase64_of_none decoded
                rw [failed]
                refine .stopped unread _ ?_ ?_ ?_
                · simp [Passes, sent, named, typed, tagged, session, saving, written, decoded]
                · simp [pulledEnvelope, sent, named, typed, decoded]
                · rw [Base64.thrown_notMem_iff (by decide) (by decide) (by decide), ← breaks]
                  simp [Breaks, sent, named, typed, tagged, session, saving, written]
              | some ciphertext =>
                rw [decodeBase64_of_some decoded]
                subst tagged
                refine .opened unread ⟨username, p.json.optLong message "timestamp" 0, ciphertext⟩ ?_ ?_
                · simp [Passes, sent, named, typed, decoded]
                · simp [pulledEnvelope, sent, named, typed, decoded, session, saving, written]
            · rename_i skipped
              refine .skipped unread ⟨messageString, source, sent, named, fun _ => ⟨⟨type, typed⟩, ?_⟩⟩ ?_
              · intro same session saving written
                exact absurd ⟨same.symm, session, saving, written⟩ skipped
              · simp only [pulledEnvelope, sent, named, typed]
                rw [if_neg fun chosen => skipped chosen.2]
        · rw [if_neg tagged]
          refine .skipped state.unread ⟨messageString, source, sent, named, fun same => absurd same.symm tagged⟩ ?_
          cases typed : p.json.getString message "type" <;> simp [pulledEnvelope, sent, named, typed, tagged]
  | _ => exact .stopped state.unread .json (by simp [Passes]) rfl (by simp [Breaks])

theorem pullEntry_of_envelope {decodeAndSave : Bool} {entry : Json} {state : Pull} {envelope : Envelope}
    (pulled : pulledEnvelope p username messageTag decodeAndSave entry state.files = some envelope) (draw : Draw) :
    ∃ unread, pullEntry p username messageTag decodeAndSave entry draw state =
      pullEnvelope p envelope messageTag draw { state with unread } := by
  have entered := @pullEntry_entered p username messageTag decodeAndSave entry draw state
  generalize pullEntry p username messageTag decodeAndSave entry draw state = outcome at entered
  cases entered with
  | skipped unread passes nothing => cases pulled.symm.trans nothing
  | stopped unread e blocked nothing breaks => cases pulled.symm.trans nothing
  | opened unread other passes same =>
    cases pulled.symm.trans same
    exact ⟨unread, rfl⟩

theorem pullEntry_without_envelope {decodeAndSave : Bool} {entry : Json} {state : Pull}
    (skipped : pulledEnvelope p username messageTag decodeAndSave entry state.files = none) (draw : Draw) :
    ∃ unread result, pullEntry p username messageTag decodeAndSave entry draw state = (result, { state with unread }) := by
  have entered := @pullEntry_entered p username messageTag decodeAndSave entry draw state
  generalize pullEntry p username messageTag decodeAndSave entry draw state = outcome at entered
  cases entered with
  | skipped unread passes nothing => exact ⟨unread, _, rfl⟩
  | stopped unread e blocked nothing breaks => exact ⟨unread, _, rfl⟩
  | opened unread envelope passes pulled => cases skipped.symm.trans pulled

theorem pulledEnvelope_fields {decodeAndSave : Bool} {entry : Json} {files : Files} {envelope : Envelope}
    (pulled : pulledEnvelope p username messageTag decodeAndSave entry files = some envelope) :
    ∃ message text type ciphertext, entry = .obj message ∧ p.json.getString message "message" = .ok text ∧
      p.json.getString message "source" = .ok username ∧ p.json.getString message "type" = .ok type ∧
      p.json.optString message "tag" = messageTag ∧ ProtocolStorage.containsSession p ⟨username, 1⟩ files = true ∧
      decodeAndSave = true ∧ p.texts.bytes.decode text = some ciphertext ∧
      envelope = ⟨username, p.json.optLong message "timestamp" 0, ciphertext⟩ := by
  unfold pulledEnvelope at pulled
  split at pulled
  · rename_i message
    split at pulled
    · rename_i text source type sent named typed
      split at pulled
      · rename_i chosen
        obtain ⟨ciphertext, decoded, rfl⟩ := Option.map_eq_some_iff.mp pulled
        obtain ⟨rfl, rfl, session, saving, _⟩ := chosen
        exact ⟨message, text, type, ciphertext, rfl, sent, named, typed, rfl, session, saving, decoded, rfl⟩
      · cases pulled
    · cases pulled
  · cases pulled

theorem pulledEnvelope_eq_some {decodeAndSave : Bool} {entry : Json} {files : Files} {envelope : Envelope}
    (pulled : pulledEnvelope p username messageTag decodeAndSave entry files = some envelope) :
    envelope.source = username ∧ ProtocolStorage.containsSession p ⟨username, 1⟩ files = true ∧ decodeAndSave = true ∧
      ∃ message, entry = .obj message ∧ envelope.timestamp = p.json.optLong message "timestamp" 0 := by
  obtain ⟨message, _, _, _, same, _, _, _, _, session, saving, _, rfl⟩ := pulledEnvelope_fields pulled
  exact ⟨rfl, session, saving, message, same, rfl⟩

theorem pullEnvelope_thrown (envelope : Envelope) (tag : String) (draw : Draw) (state : Pull) :
    (∃ handled, (pullEnvelope p envelope tag draw state).1 = .ok () ∧
        (pullEnvelope p envelope tag draw state).2.handled = state.handled ++ [handled] ∧ draw.thrown true = none) ∨
      ∃ e, (pullEnvelope p envelope tag draw state).1 = .error e ∧
        (pullEnvelope p envelope tag draw state).2.handled = state.handled ∧ draw.thrown true = some e := by
  unfold pullEnvelope
  dsimp only
  rcases @processEnvelope_thrown p true envelope tag draw state.files with ⟨message, done, returns⟩ | ⟨e, failed, thrown⟩
  · rw [done]
    exact .inl ⟨_, rfl, rfl, returns⟩
  · rw [failed]
    exact .inr ⟨e, rfl, rfl, thrown⟩

theorem pullEnvelope_handles (envelope : Envelope) (draw : Draw) (state : Pull) :
    Handles p envelope.source messageTag state (pullEnvelope p envelope messageTag draw state).2 := by
  unfold pullEnvelope
  dsimp only
  cases done : (processEnvelope true p envelope messageTag draw state.files).result with
  | error e => exact ⟨[], by simp, by simp, by simp, failed_delivers p _ _ _ _ _ done⟩
  | ok message => exact ⟨_, rfl, rfl, by simp, processed_delivers p _ _ _ _ _ done⟩

theorem pullEntry_handles (decodeAndSave : Bool) (entry : Json) (draw : Draw) (state : Pull) :
    Handles p username messageTag state (pullEntry p username messageTag decodeAndSave entry draw state).2 := by
  have idle := @Handles.idle p username messageTag state
  cases pulled : pulledEnvelope p username messageTag decodeAndSave entry state.files with
  | none =>
    obtain ⟨unread, result, skipped⟩ := pullEntry_without_envelope pulled draw
    rw [skipped]
    exact idle unread
  | some envelope =>
    obtain ⟨unread, decrypted⟩ := pullEntry_of_envelope pulled draw
    obtain ⟨rfl, _⟩ := pulledEnvelope_eq_some pulled
    rw [decrypted]
    exact (idle unread).trans (pullEnvelope_handles ..)

theorem pullLoop_handles (decodeAndSave : Bool) (draws : Nat → Draw) (i : Nat) (entries : List Json) (state : Pull) :
    Handles p username messageTag state (pullLoop p username messageTag decodeAndSave draws i entries state).2 := by
  induction entries generalizing i state with
  | nil => exact .idle state state.unread
  | cons entry entries ih =>
    have first := @pullEntry_handles p username messageTag decodeAndSave entry (draws i) state
    rw [pullLoop]
    cases round : pullEntry p username messageTag decodeAndSave entry (draws i) state with
    | mk result later =>
      rw [round] at first
      cases result with
      | error e => exact first
      | ok done => exact first.trans (ih (i + 1) later)

theorem getContactMessages_delivers (decodeAndSave : Bool) (exchange : Exchange) (draws : Nat → Draw) (files : Files) :
    let received := getContactMessages p username messageTag decodeAndSave exchange draws files
    Delivers p files received.handled received.files ∧
    received.deletes = received.handled.map
      (fun handled => deleteUrl handled.envelope.source handled.envelope.timestamp) ∧
    ∀ handled ∈ received.handled, handled.envelope.source = username ∧ handled.tag = messageTag := by
  unfold getContactMessages
  cases exchange with
  | dropped => exact ⟨.done .refl, rfl, by simp⟩
  | failed => exact ⟨.done .refl, rfl, by simp⟩
  | answered response =>
    obtain ⟨more, handled, deletes, asked, delivers⟩ := @pullLoop_handles p username messageTag decodeAndSave draws 0
      ((OrgJson.optJSONArray (ServerResponse.getResponseJSONObject p response) "messages").getD []) ⟨files, [], [], [], []⟩
    dsimp only at handled deletes delivers ⊢
    rw [handled, deletes]
    simp only [List.nil_append]
    exact ⟨delivers, trivial, asked⟩

theorem pullEntry_files (decodeAndSave : Bool) (entry : Json) (draw : Draw) (state : Pull) :
    (pullEntry p username messageTag decodeAndSave entry draw state).2.files =
      match pulledEnvelope p username messageTag decodeAndSave entry state.files with
      | none => state.files
      | some envelope => (processEnvelope true p envelope messageTag draw state.files).files := by
  cases pulled : pulledEnvelope p username messageTag decodeAndSave entry state.files with
  | none =>
    obtain ⟨unread, result, skipped⟩ := pullEntry_without_envelope pulled draw
    rw [skipped]
  | some envelope =>
    obtain ⟨unread, decrypted⟩ := pullEntry_of_envelope pulled draw
    rw [decrypted, pullEnvelope]
    dsimp only
    split <;> rfl

theorem pullEntry_result {decodeAndSave : Bool} {entry : Json} {state : Pull}
    {envelope : Envelope} (pulled : pulledEnvelope p username messageTag decodeAndSave entry state.files = some envelope)
    (draw : Draw) :
    (pullEntry p username messageTag decodeAndSave entry draw state).1 =
      (processEnvelope true p envelope messageTag draw state.files).result.map fun _ => () := by
  obtain ⟨unread, decrypted⟩ := pullEntry_of_envelope pulled draw
  rw [decrypted, pullEnvelope]
  dsimp only
  cases (processEnvelope true p envelope messageTag draw state.files).result <;> rfl

theorem decryptSignalMessage_eq (receivedMessage : List Char) (draw : Draw) (files : Files) :
    ∃ settlement, decryptSignalMessage p messageTag receivedMessage draw files =
      (pushedEnvelope p receivedMessage files).elim ⟨settlement, files, [], []⟩
        fun envelope => pushEnvelope p envelope messageTag draw files := by
  unfold decryptSignalMessage pushedEnvelope
  dsimp only [bind, Except.bind, pure, Except.pure]
  cases p.json.newJSONObject receivedMessage with
  | error e => exact ⟨_, rfl⟩
  | ok message =>
    dsimp only
    cases p.json.getString message "legacyMessage" with
    | error e => exact ⟨_, rfl⟩
    | ok messageString =>
      dsimp only
      cases p.json.getString message "source" with
      | error e => exact ⟨_, rfl⟩
      | ok source =>
        dsimp only
        split
        · rw [decodeBase64]
          cases p.texts.bytes.decode messageString with
          | none => exact ⟨_, rfl⟩
          | some ciphertext => exact ⟨none, rfl⟩
        · exact ⟨_, rfl⟩

theorem decryptSignalMessage_of_envelope {receivedMessage : List Char} {envelope : Envelope} {files : Files}
    (pushed : pushedEnvelope p receivedMessage files = some envelope) (messageTag : String) (draw : Draw) :
    decryptSignalMessage p messageTag receivedMessage draw files = pushEnvelope p envelope messageTag draw files := by
  obtain ⟨settlement, reached⟩ := @decryptSignalMessage_eq p messageTag receivedMessage draw files
  rw [pushed] at reached
  exact reached

theorem decryptSignalMessage_without_envelope {receivedMessage : List Char} {files : Files}
    (skipped : pushedEnvelope p receivedMessage files = none) (messageTag : String) (draw : Draw) :
    ∃ settlement, decryptSignalMessage p messageTag receivedMessage draw files = ⟨settlement, files, [], []⟩ := by
  obtain ⟨settlement, reached⟩ := @decryptSignalMessage_eq p messageTag receivedMessage draw files
  rw [skipped] at reached
  exact ⟨settlement, reached⟩

theorem pushEnvelope_settlement (envelope : Envelope) (tag : String) (draw : Draw) (files : Files) :
    (pushEnvelope p envelope tag draw files).settlement =
      match (processEnvelope false p envelope tag draw files).result with
      | .error e => pushSettlement e
      | .ok _ => some (.resolve "ok") := by
  unfold pushEnvelope
  dsimp only
  cases (processEnvelope false p envelope tag draw files).result <;> rfl

theorem pushEnvelope_files (envelope : Envelope) (tag : String) (draw : Draw) (files : Files) :
    (pushEnvelope p envelope tag draw files).files = (processEnvelope false p envelope tag draw files).files := by
  unfold pushEnvelope
  dsimp only
  split <;> rfl

theorem pushEnvelope_handled {envelope : Envelope} {tag : String} {draw : Draw} {files : Files} {handled : Handled}
    (member : handled ∈ (pushEnvelope p envelope tag draw files).handled) :
    handled.envelope = envelope ∧ handled.tag = tag := by
  unfold pushEnvelope at member
  dsimp only at member
  split at member
  · cases member
  · rw [List.mem_singleton.mp member]
    exact ⟨rfl, rfl⟩

theorem pushEnvelope_delivers (envelope : Envelope) (tag : String) (draw : Draw) (files : Files) :
    Delivers p files (pushEnvelope p envelope tag draw files).handled (pushEnvelope p envelope tag draw files).files := by
  unfold pushEnvelope
  dsimp only
  split
  · rename_i failed
    exact failed_delivers p _ _ _ _ _ failed
  · rename_i done
    exact processed_delivers p _ _ _ _ _ done

theorem decryptSignalMessage_delivers (receivedMessage : List Char) (draw : Draw) (files : Files) :
    let received := decryptSignalMessage p messageTag receivedMessage draw files
    Delivers p files received.handled received.files ∧ ∀ handled ∈ received.handled, handled.tag = messageTag := by
  intro received
  cases pushed : pushedEnvelope p receivedMessage files with
  | none =>
    obtain ⟨settlement, skipped⟩ := decryptSignalMessage_without_envelope pushed messageTag draw
    simp only [received, skipped]
    exact ⟨.done .refl, by simp⟩
  | some envelope =>
    simp only [received, decryptSignalMessage_of_envelope pushed]
    exact ⟨pushEnvelope_delivers .., fun handled member => (pushEnvelope_handled member).2⟩

theorem decryptSignalMessage_files (receivedMessage : List Char) (draw : Draw) (files : Files) :
    (decryptSignalMessage p messageTag receivedMessage draw files).files =
      match pushedEnvelope p receivedMessage files with
      | none => files
      | some envelope => (processEnvelope false p envelope messageTag draw files).files := by
  cases pushed : pushedEnvelope p receivedMessage files with
  | none =>
    obtain ⟨settlement, skipped⟩ := decryptSignalMessage_without_envelope pushed messageTag draw
    rw [skipped]
  | some envelope => rw [decryptSignalMessage_of_envelope pushed, pushEnvelope_files]

end SignalClient
end PillarSignal.Android
