import PillarSignal.Properties.Promises
import PillarSignal.Properties.PullLoop

namespace PillarSignal.Android

open Storage SignalClient

variable {p : Platform} {username messageTag : String}

section Acknowledgements

theorem intValue_eq_iff {number : Int} (nonnegative : 0 ≤ number) : intValue number = number ↔ number < 2 ^ 31 := by
  unfold intValue saturate
  omega

theorem deleteUrl_inj {one other : Int} : deleteUrl username one = deleteUrl username other ↔ one = other := by
  constructor
  · intro same
    apply valueOf_injective
    apply String.toList_injective
    have texts := congrArg String.toList same
    simpa [deleteUrl, String.toList_append] using texts
  · intro same
    rw [same]

theorem pullEntry_deletes (decodeAndSave : Bool) (message : JSONObject) (draw : Draw) (state : Pull) :
    (pullEntry p username messageTag decodeAndSave (.obj message) draw state).2.deletes = state.deletes ∨
      (pullEntry p username messageTag decodeAndSave (.obj message) draw state).2.deletes =
        state.deletes ++ [deleteUrl username (p.json.optLong message "timestamp" 0)] := by
  cases pulled : pulledEnvelope p username messageTag decodeAndSave (.obj message) state.files with
  | none =>
    obtain ⟨unread, result, skipped⟩ := pullEntry_without_envelope pulled draw
    rw [skipped]
    exact .inl rfl
  | some envelope =>
    obtain ⟨unread, decrypted⟩ := pullEntry_of_envelope pulled draw
    obtain ⟨rfl, _, _, _, same, dated⟩ := pulledEnvelope_eq_some pulled
    cases same
    rw [decrypted, pullEnvelope, ← dated]
    dsimp only
    split
    · exact .inl rfl
    · exact .inr rfl

/-- A message that was pushed is deleted under the URL that a pull deletes it under exactly when its timestamp is an
    `int`. -/
theorem acknowledged_message_is_deleted_iff (http : OkHttp) (p : Platform) (ciphers : Ciphers)
    (module : RNSignalClientModule) (server : SignalServer) (client : module.signalClient = some server)
    (accepted : http.acceptsHost server.host = true) (username : String) (timestamp : Int) (nonnegative : 0 ≤ timestamp)
    (exact_ : timestamp < 2 ^ 53) (tag : String) (receivedMessage : List Char) (draw : Draw) (messageTag : String)
    (message : JSONObject) (stamped : message.lookup "timestamp" = some (.num timestamp)) (pullDraw : Draw) (state : Pull)
    (url : String)
    (deleted : (pullEntry p username messageTag true (.obj message) pullDraw state).2.deletes = state.deletes ++ [url]) :
    let pushed := (Method.decryptSignalMessage tag receivedMessage draw).start http p ciphers module
    ((Method.deleteSignalMessage username (intValue timestamp)).start http p ciphers
        { module with files := pushed.state }).started = [.timestamp (.delete url true)] ↔ timestamp < 2 ^ 31 := by
  intro pushed
  have pulled : url = deleteUrl username timestamp := by
    rcases @pullEntry_deletes p username messageTag true message pullDraw state with none_ | one
    · rw [deleted] at none_
      simp at none_
    · rw [deleted, OrgJson.optLong_num stamped, toLong_of_small (by omega) (by omega)] at one
      simpa using one
  have started : ((Method.deleteSignalMessage username (intValue timestamp)).start http p ciphers
      { module with files := pushed.state }).started =
        [.timestamp (.delete (deleteUrl username (intValue timestamp)) true)] := by
    rw [Method.start, client, SignalServer.call, if_pos accepted]
    rfl
  rw [started, pulled, ← intValue_eq_iff nonnegative, ← @deleteUrl_inj username]
  simp

section Pushed

def clientModule (files : Files) : RNSignalClientModule := ⟨some ⟨"https://signal", "token"⟩, "alice", files⟩

def bobStamped (timestamp : Int) : JSONObject :=
  [("message", .str "m"), ("source", .str "bob"), ("timestamp", .num timestamp), ("tag", .str "chat"), ("type", .num 1)]

def stampedPush (timestamp : Int) : List Char :=
  JsonText.print (.obj [("legacyMessage", .str "m"), ("source", .str "bob"), ("timestamp", .num timestamp)])

def bobPushed (timestamp : Int) : Files :=
  ((Method.decryptSignalMessage "chat" (stampedPush timestamp) undecryptable).start Method.lenient .plain plainCiphers
    (clientModule (bobFiles "[]"))).state

def acknowledge (timestamp : Int) : List Task :=
  ((Method.deleteSignalMessage "bob" (intValue timestamp)).start Method.lenient .plain plainCiphers
    (clientModule (bobPushed timestamp))).started

theorem early_message_is_acknowledged :
    (MessageStorage.getContactMessages .plain "bob" "chat" (bobPushed 5)).length = 1 ∧
      acknowledge 5 = [.timestamp (.delete "/v1/messages/bob/5" true)] := by
  have pushed : (MessageStorage.getContactMessages .plain "bob" "chat" (bobPushed 5)).length = 1 := by decide +kernel
  have acknowledged := (acknowledged_message_is_deleted_iff Method.lenient .plain plainCiphers (clientModule (bobFiles "[]"))
    ⟨"https://signal", "token"⟩ rfl rfl "bob" 5 (by decide) (by decide) "chat" (stampedPush 5) undecryptable "chat"
    (bobStamped 5) rfl undecryptable ⟨bobFiles "[]", [], [], [], []⟩ "/v1/messages/bob/5" (by decide +kernel)).mpr (by decide)
  exact ⟨pushed, acknowledged⟩

/-- The timestamps of the server are milliseconds, and the largest `int` is deleted in their place. -/
theorem acknowledged_message_stays :
    (pullEntry .plain "bob" "chat" true (.obj (bobStamped 1500000000000)) undecryptable
        ⟨bobFiles "[]", [], [], [], []⟩).2.deletes = ["/v1/messages/bob/1500000000000"] ∧
      acknowledge 1500000000000 = [.timestamp (.delete "/v1/messages/bob/2147483647" true)] := by
  decide +kernel

end Pushed
end Acknowledgements
section Received

def SavedAt (second : Int) (message : Option Json) : Prop :=
  ∃ members, message = some (.obj members) ∧ members.lookup "savedTimestamp" = some (.num second)

def SavesAt (p : Platform) (envelope : Envelope) (second : Int) (before handled : List Handled) (after : Files) : Prop :=
  ∃ one, handled = before ++ [one] ∧ one.envelope = envelope ∧ SavedAt second one.message ∧ after = one.after p

theorem savesAt_iff (one : Handled) (second : Int) (before : List Handled) :
    SavesAt p one.envelope second before (before ++ [one]) (one.after p) ↔ SavedAt second one.message := by
  constructor
  · intro saves
    obtain ⟨other, same, _, saved, _⟩ := saves
    have single : one = other := by simpa using same
    rwa [← single] at saved
  · intro saved
    exact ⟨one, rfl, rfl, saved, rfl⟩

theorem not_savesAt (envelope : Envelope) (second : Int) (before : List Handled) (after : Files) :
    ¬ SavesAt p envelope second before before after := by
  intro saves
  obtain ⟨one, same, _⟩ := saves
  simp at same

theorem Attempts.escaping_of_plaintext {attempts : Attempts} {bytes : Bytes} (decrypted : attempts.plaintext = some bytes)
    (nullCaught : Bool) : attempts.escaping nullCaught = none := by
  unfold Attempts.plaintext at decrypted
  unfold Attempts.escaping
  cases thrown : attempts.signalMessage with
  | plaintext bytes calls => rfl
  | throws first calls =>
    simp only [thrown] at decrypted ⊢
    by_cases caught : caughtFirst first = true
    · rw [if_pos caught] at decrypted ⊢
      cases last : attempts.last with
      | plaintext bytes calls => rfl
      | throws later calls =>
        rw [last] at decrypted
        cases decrypted
    · rw [if_neg caught] at decrypted
      cases decrypted

theorem savedTimestamp_messageJSONO (messageBytes : Option Bytes) (username : String)
    (device serverTimestamp savedTimestamp second : Int) :
    SavedAt second (some (messageJSONO p messageBytes username device serverTimestamp savedTimestamp)) ↔
      savedTimestamp = second := by
  simp [SavedAt, messageJSONO, lookup_cons_ite]

theorem due_saved_iff (envelope : Envelope) (tag : String) {draw : Draw} (nonnegative : 0 ≤ draw.currentTimeMillis)
    (files : Files) :
    ((due p envelope tag draw files).InTime ∧
        SavedAt (draw.currentTimeMillis / 1000) (due p envelope tag draw files).message) ↔
      draw.attempts.reportedDuplicate = false ∧ draw.currentTimeMillis / 1000 < 2 ^ 31 := by
  have quotient : draw.currentTimeMillis.tdiv 1000 = draw.currentTimeMillis / 1000 := Int.tdiv_eq_ediv_of_nonneg nonnegative
  have dated : Dated draw.currentTimeMillis ↔ draw.currentTimeMillis / 1000 < 2 ^ 31 := by
    rw [Dated, quotient]
    omega
  cases reported : draw.attempts.reportedDuplicate with
  | true => simp [due, reported, SavedAt]
  | false => simp [due, reported, Handled.InTime, savedTimestamp_messageJSONO, dated, quotient]

theorem pull_saves_iff {entry : Json} {state : Pull} {envelope : Envelope} {draw : Draw} {bytes : Bytes}
    (pulled : pulledEnvelope p username messageTag true entry state.files = some envelope)
    (decrypted : draw.attempts.plaintext = some bytes) (nonnegative : 0 ≤ draw.currentTimeMillis) :
    let ended := pullEntry p username messageTag true entry draw state
    (ended.1 = .ok () ∧
        SavesAt p envelope (draw.currentTimeMillis / 1000) state.handled ended.2.handled ended.2.files) ↔
      draw.attempts.reportedDuplicate = false ∧ draw.currentTimeMillis / 1000 < 2 ^ 31 := by
  obtain ⟨unread, handled⟩ := pullEntry_due pulled (Attempts.escaping_of_plaintext decrypted true)
  dsimp only
  rw [← @due_saved_iff p envelope messageTag draw nonnegative state.files, handled]
  by_cases inTime : (due p envelope messageTag draw state.files).InTime
  · rw [if_pos inTime]
    have saves := @savesAt_iff p (due p envelope messageTag draw state.files) (draw.currentTimeMillis / 1000) state.handled
    simp only [inTime, true_and]
    exact saves
  · rw [if_neg inTime]
    simp [inTime]

theorem push_saves_iff {receivedMessage : List Char} {files : Files} {envelope : Envelope} {draw : Draw} {bytes : Bytes}
    (pushed : pushedEnvelope p receivedMessage files = some envelope) (decrypted : draw.attempts.plaintext = some bytes)
    (nonnegative : 0 ≤ draw.currentTimeMillis) :
    let ended := decryptSignalMessage p messageTag receivedMessage draw files
    (ended.settlement = some (.resolve "ok") ∧
        SavesAt p envelope (draw.currentTimeMillis / 1000) [] ended.handled ended.files) ↔
      draw.attempts.reportedDuplicate = false ∧ draw.currentTimeMillis / 1000 < 2 ^ 31 := by
  dsimp only
  rw [← @due_saved_iff p envelope messageTag draw nonnegative files, decryptSignalMessage_of_envelope pushed, pushEnvelope,
    processEnvelope_due (Attempts.escaping_of_plaintext decrypted false)]
  by_cases inTime : (due p envelope messageTag draw files).InTime
  · rw [if_pos inTime]
    have saves := @savesAt_iff p (due p envelope messageTag draw files) (draw.currentTimeMillis / 1000) []
    simp only [inTime, true_and]
    exact saves
  · rw [if_neg inTime]
    simp [inTime, not_savesAt]

end Received
section Sent

def SentAt (second : Int) (entry : Json) : Prop :=
  ∃ members, entry = .obj members ∧ members.lookup "savedTimestamp" = some (.num second) ∧
    members.lookup "serverTimestamp" = some (.num (1000 * second))

theorem toInt_eq_iff {value : Int} (nonnegative : 0 ≤ value) : toInt value = value ↔ value < 2 ^ 31 := by
  constructor
  · intro same
    have upper : toInt value < (2 ^ 32 + 1) / 2 := Int.bmod_lt (by decide)
    omega
  · intro small
    exact toInt_of_small (by omega) small

theorem sentAt_iff (message : String) (timestamp second : Int) (files : Files) :
    SentAt second (sentEntry p message timestamp files) ↔ timestamp = second := by
  constructor
  · intro sent
    obtain ⟨members, same, saved, _⟩ := sent
    cases same
    simpa [lookup_cons_ite] using saved
  · intro same
    subst same
    refine ⟨_, rfl, ?_, ?_⟩
    · simp [lookup_cons_ite]
    · simp [lookup_cons_ite, mul_comm]

/-- The round in which a message is saved: the last that was tried, with the server's time of that round. -/
def SavedIn (p : Platform) (out : Outgoing) (rounds : List Round) (sending : Sending) (saved : Saved)
    (response : Response) : Prop :=
  ∃ earlier round later, rounds = earlier ++ round :: later ∧ sending.puts.length = earlier.length + 1 ∧
    round.timestamp = .answered response ∧
    saved.entry = sentEntry p out.messageString
      (p.json.optInt (ServerResponse.getResponseJSONObject p response) "timestamp" 0) saved.before

theorem sendMessage_saved (out : Outgoing) (rounds : List Round) (files : Files) {saved : Saved}
    (done : (sendMessage p out rounds files).saved = some saved) :
    ∃ response, SavedIn p out rounds (sendMessage p out rounds files) saved response := by
  induction rounds generalizing files with
  | nil => cases done
  | cons round rounds ih =>
    rcases @sendMessage_cases p out round rounds files with ended | ⟨time, _, _, asked, _, _, same⟩ | ⟨_, between, _, _, same⟩
    · rw [ended.saved] at done
      cases done
    · rw [same] at done ⊢
      cases done
      exact ⟨time, [], round, rounds, rfl, rfl, asked, rfl⟩
    · rw [same] at done ⊢
      obtain ⟨time, earlier, saving, later, rfl, count, asked, entry⟩ := ih between done
      exact ⟨time, round :: earlier, saving, later, rfl, by simp [count], asked, entry⟩

/-- Received and sent messages are stored with the exact second as long as it is an `int`: beyond that a received message
    is lost after its session has moved on, and the second of a sent one wraps around. -/
theorem saved_timestamps_are_exact_iff (p : Platform) :
    (∀ username messageTag entry state envelope draw bytes,
      pulledEnvelope p username messageTag true entry state.files = some envelope →
      draw.attempts.plaintext = some bytes → 0 ≤ draw.currentTimeMillis →
      let ended := pullEntry p username messageTag true entry draw state
      (ended.1 = .ok () ∧
          SavesAt p envelope (draw.currentTimeMillis / 1000) state.handled ended.2.handled ended.2.files) ↔
        draw.attempts.reportedDuplicate = false ∧ draw.currentTimeMillis / 1000 < 2 ^ 31) ∧
    (∀ messageTag receivedMessage files envelope draw bytes,
      pushedEnvelope p receivedMessage files = some envelope → draw.attempts.plaintext = some bytes →
      0 ≤ draw.currentTimeMillis →
      let ended := decryptSignalMessage p messageTag receivedMessage draw files
      (ended.settlement = some (.resolve "ok") ∧
          SavesAt p envelope (draw.currentTimeMillis / 1000) [] ended.handled ended.files) ↔
        draw.attempts.reportedDuplicate = false ∧ draw.currentTimeMillis / 1000 < 2 ^ 31) ∧
    ∀ out rounds files saved, (sendMessage p out rounds files).saved = some saved →
      ∃ response, SavedIn p out rounds (sendMessage p out rounds files) saved response ∧
        (sendMessage p out rounds files).files =
          MessageStorage.storeMessage p out.username saved.entry out.messageTag saved.before ∧
        ∀ second, (ServerResponse.getResponseJSONObject p response).lookup "timestamp" = some (.num second) →
          0 ≤ second → second < 2 ^ 50 → (SentAt second saved.entry ↔ second < 2 ^ 31) := by
  refine ⟨fun _ _ _ _ _ _ _ pulled decrypted clock => pull_saves_iff pulled decrypted clock,
    fun _ _ _ _ _ _ pushed decrypted clock => push_saves_iff pushed decrypted clock, ?_⟩
  intro out rounds files saved done
  obtain ⟨response, round⟩ := sendMessage_saved out rounds files done
  have writes := @sendMessage_writes p out rounds files
  rw [Sending.Writes, done] at writes
  refine ⟨response, round, writes.2, fun second told nonnegative _ => ?_⟩
  obtain ⟨_, _, _, _, _, _, entry⟩ := round
  rw [entry, sentAt_iff, OrgJson.optInt_num told, toInt_eq_iff nonnegative]

section Clocks

def decryptsAt (currentTimeMillis : Int) : Draw :=
  ⟨⟨.plaintext [104, 105] [.storeSession ⟨[2]⟩], .throws .invalidMessage [], .throws .invalidMessage []⟩, currentTimeMillis⟩

def pulledAt (currentTimeMillis : Int) : Except Thrown Unit × Pull :=
  pullEntry .plain "bob" "chat" true (.obj (bobStamped 5)) (decryptsAt currentTimeMillis) ⟨bobFiles "[]", [], [], [], []⟩

def sentAt (second : Int) : Sending :=
  sendMessage .plain ⟨"bob", "hi", none, none, "chat", false⟩
    [⟨.answered ⟨200, some (JsonText.print (.obj [("timestamp", .num second)]))⟩, .ciphertext [] 1 [],
      .answered ⟨200, some (JsonText.print (.obj []))⟩, .dropped, fun _ => .ok []⟩] (bobFiles "[]")

theorem message_of_today_is_dated :
    (pulledAt 1500000000999).1 = .ok () ∧ SavesAt .plain ⟨"bob", 5, Plain.text.decode "m" |>.getD []⟩ 1500000000
      [] (pulledAt 1500000000999).2.handled (pulledAt 1500000000999).2.files := by
  have second : (decryptsAt 1500000000999).currentTimeMillis / 1000 = 1500000000 := by decide +kernel
  have saves := ((saved_timestamps_are_exact_iff .plain).1 "bob" "chat" (.obj (bobStamped 5))
    ⟨bobFiles "[]", [], [], [], []⟩ ⟨"bob", 5, Plain.text.decode "m" |>.getD []⟩ (decryptsAt 1500000000999) [104, 105]
    (by decide +kernel) rfl (by decide +kernel)).mpr ⟨rfl, by rw [second]; decide⟩
  dsimp only at saves
  rw [second] at saves
  unfold pulledAt
  exact saves

/-- In the second 2 ^ 31 a message is received by a session that moves on and not stored, and a message that is sent is
    stored as one of 1901. -/
theorem seconds_run_out :
    ((pulledAt (1000 * 2 ^ 31)).1 = .error .numberFormat ∧
      ProtocolStorage.loadSession .plain ⟨"bob", 1⟩ (pulledAt (1000 * 2 ^ 31)).2.files = some ⟨[2]⟩ ∧
      MessageStorage.getContactMessages .plain "bob" "chat" (pulledAt (1000 * 2 ^ 31)).2.files = []) ∧
    (sentAt (2 ^ 31)).saved.map (fun saved => saved.entry) = some (.obj [("content", .str "hi"), ("username", .str ""),
      ("device", .num 1), ("serverTimestamp", .num (-2147483648000)), ("savedTimestamp", .num (-2147483648))]) := by
  decide +kernel

end Clocks
end Sent
end PillarSignal.Android
