import PillarSignal.Android.Send
import PillarSignal.Ios.Send

namespace PillarSignal

open Storage

def Success (code : Nat) : Prop := 200 ≤ code ∧ code < 300

instance (code : Nat) : Decidable (Success code) := inferInstanceAs (Decidable (200 ≤ code ∧ code < 300))

namespace Android

open SignalClient

variable {p : Platform}

def staleField (p : Platform) (response : Response) : Option Json :=
  response.body.bind fun text =>
    match p.json.newJSONObject text with
    | .ok object => object.lookup "staleDevices"
    | .error _ => none

/-- The message was accepted: its last `PUT` was answered with a 2xx code and without stale devices. -/
def Accepted (p : Platform) : Option Exchange → Prop
  | some (.answered response) => Success response.code ∧ staleField p response = none
  | _ => False

def Taken (p : Platform) : Option Exchange → Prop
  | some (.answered response) => staleDevices p response = false
  | _ => False

/-- A reply that the code reads as it is meant. -/
def Regular (p : Platform) (response : Response) : Prop :=
  match staleField p response with
  | none => Success response.code
  | some value => ServerResponse.isValidResponseCode response.code = true ∧ ∃ devices, value = .arr devices

/-- The caller is told success, and the history has a new entry at its end. -/
def Recorded (p : Platform) (out : Outgoing) (sending : Sending) : Prop :=
  sending.settlement = .ok (some (.resolve "ok")) ∧ ∃ saved, sending.saved = some saved ∧
    MessageStorage.getContactMessages p out.username out.messageTag sending.files =
      MessageStorage.getContactMessages p out.username out.messageTag saved.before ++ [saved.entry]

theorem staleDevices_iff (response : Response) : staleDevices p response = true ↔
    ServerResponse.isValidResponseCode response.code = true ∧ ∃ devices, staleField p response = some (.arr devices) := by
  unfold staleDevices staleField ServerResponse.getResponseJSONObject
  cases response.body with
  | none => simp [OrgJson.optJSONArray]
  | some text =>
    cases ServerResponse.isValidResponseCode response.code with
    | false => simp [OrgJson.optJSONArray]
    | true =>
      simp only [if_true, Option.bind_some, true_and, OrgJson.optJSONArray]
      cases p.json.newJSONObject text with
      | error e => simp
      | ok object =>
        dsimp only
        cases object.lookup "staleDevices" with
        | none => simp
        | some value => cases value <;> simp

theorem regular_iff (response : Response) :
    (staleDevices p response = false ↔ Success response.code ∧ staleField p response = none) ↔ Regular p response := by
  have stale := @staleDevices_iff p response
  unfold Regular
  cases field : staleField p response with
  | none =>
    have unseen : staleDevices p response = false := by
      rw [← Bool.not_eq_true, stale, field]
      simp
    simp [unseen]
  | some value =>
    rw [← Bool.not_eq_true, stale, field]
    simp

theorem taken_retried {response : Response} (stale : staleDevices p response = true) (puts : List Exchange) :
    Taken p (.answered response :: puts).getLast? ↔ Taken p puts.getLast? := by
  rw [List.getLast?_cons]
  cases puts.getLast? with
  | none => simp [Taken, stale]
  | some last => rfl

theorem sendMessage_last (out : Outgoing) (rounds : List Round) (files : Files) :
    let sending := sendMessage p out rounds files
    (sending.saved.isSome ↔ Taken p sending.puts.getLast?) ∧
      (sending.settlement = .ok (some (.resolve "ok")) ↔ sending.saved.isSome) := by
  induction rounds generalizing files with
  | nil => simp [sendMessage, Taken]
  | cons round rounds ih =>
    rcases @sendMessage_cases p out round rounds files with ended | ⟨_, _, _, _, fresh, _, same⟩ | ⟨_, between, stale, _, same⟩
    · have untaken : ¬ Taken p (sendMessage p out (round :: rounds) files).puts.getLast? := by
        unfold Taken
        split
        · rename_i response last
          simp [ended.stale response last]
        · exact not_false
      simp [ended.saved, ended.unresolved, untaken]
    · rw [same]
      simp [Taken, fresh]
    · rw [same]
      dsimp only
      rw [taken_retried stale]
      exact ih between

theorem recorded_iff {out : Outgoing} {rounds : List Round} {files : Files}
    (storable : ∀ saved ∈ (sendMessage p out rounds files).saved,
      MessageStorage.Storable p out.username out.messageTag saved.before) :
    Recorded p out (sendMessage p out rounds files) ↔ Taken p (sendMessage p out rounds files).puts.getLast? := by
  obtain ⟨taken, told⟩ := @sendMessage_last p out rounds files
  have writes := @sendMessage_writes p out rounds files
  rw [← taken, Recorded, told]
  constructor
  · exact fun recorded => recorded.1
  · intro saved
    refine ⟨saved, ?_⟩
    obtain ⟨entry, same⟩ := Option.isSome_iff_exists.mp saved
    refine ⟨entry, same, ?_⟩
    rw [Sending.Writes, same] at writes
    rw [writes.2]
    exact (storable entry same).appended _

end Android

namespace Ios

open SignalClient ProtocolStorage

variable {p : Platform}

def staleField (p : Platform) (data : List Char) : Option Json :=
  match p.jsonObject data with
  | some (.obj dict) => dict.lookup "staleDevices"
  | _ => none

def Accepted (p : Platform) : Option Exchange → Prop
  | some (.answered statusCode data) => Success statusCode ∧ staleField p data = none
  | _ => False

def Taken (p : Platform) : Option Exchange → Prop
  | some exchange => ∃ dict, SignalServer.call p exchange = .success dict ∧ dict.lookup "staleDevices" = none
  | none => False

def Regular (p : Platform) (statusCode : Nat) (data : List Char) : Prop :=
  match p.jsonObject data with
  | some (.obj dict) =>
    match dict.lookup "staleDevices" with
    | none => Success statusCode ∨ statusCode = 404
    | some _ => statusCode ≠ 204
  | _ => statusCode = 204 ∨ ¬ Success statusCode

def Recorded (self : String) (out : Outgoing) (before : Archives) (sending : Sending) : Prop :=
  sending.result = .success ∧ ∃ message, sending.saved = some message ∧
    MessagesStorage.getMessages self out.messageTag sending.archives =
      MessagesStorage.getMessages self out.messageTag before ++ [message]

theorem taken_iff (statusCode : Nat) (data : List Char) : Taken p (some (.answered statusCode data)) ↔
    statusCode = 204 ∨ statusCode ≠ 404 ∧
      ∃ dict, p.jsonObject data = some (.obj dict) ∧ dict.lookup "staleDevices" = none := by
  unfold Taken SignalServer.call
  dsimp only
  split
  · simp_all
  · split
    · simp_all
    · split <;> simp_all

theorem regular_iff (statusCode : Nat) (data : List Char) :
    (Taken p (some (.answered statusCode data)) ↔ Accepted p (some (.answered statusCode data))) ↔
      Regular p statusCode data := by
  rw [taken_iff]
  unfold Accepted Regular staleField Success
  dsimp only
  split
  · rename_i dict parsed
    have read : (∃ dict, p.jsonObject data = some (.obj dict) ∧ dict.lookup "staleDevices" = none) ↔
        dict.lookup "staleDevices" = none :=
      ⟨fun ⟨other, same, absent⟩ => by rw [parsed] at same; cases same; exact absent, fun absent => ⟨dict, parsed, absent⟩⟩
    rw [read]
    cases dict.lookup "staleDevices" with
    | none =>
      simp only [and_true]
      omega
    | some value => simp
  · rename_i unread
    have none_read : ¬ ∃ dict, p.jsonObject data = some (.obj dict) ∧ dict.lookup "staleDevices" = none :=
      fun ⟨dict, parsed, _⟩ => unread dict parsed
    simp only [none_read, and_false, or_false, and_true]
    omega

theorem taken_retried {exchange : Exchange} (stale : ¬ Taken p (some exchange)) (puts : List Exchange) :
    Taken p (exchange :: puts).getLast? ↔ Taken p puts.getLast? := by
  rw [List.getLast?_cons]
  cases puts.getLast? with
  | none => exact ⟨stale, False.elim⟩
  | some last => rfl

theorem sendMessage_last (self : String) (out : Outgoing) (rounds : List Round) (archives : Archives) :
    let sending := sendMessage p self out rounds archives
    (sending.saved.isSome ↔ Taken p sending.puts.getLast?) ∧ (sending.result = .success ↔ sending.saved.isSome) := by
  induction rounds generalizing archives with
  | nil => simp [sendMessage, Taken]
  | cons round rounds ih =>
    unfold sendMessage
    dsimp only
    split
    · simp [Taken]
    · split
      · rename_i called
        simp [Taken, called]
      · rename_i called
        simp [Taken, called]
      · rename_i dict called
        split
        · rename_i stale
          have untaken : ¬ Taken p (some round.put) := by
            rintro ⟨other, same, absent⟩
            rw [called] at same
            cases same
            simp [absent] at stale
          split
          · rename_i between _
            have later := ih between
            rw [taken_retried untaken]
            exact later
          · rename_i rebuild between failed _
            simp only [List.getLast?_singleton, untaken, Option.isSome_none, Bool.false_eq_true, true_and, iff_false]
            cases rebuild <;> simp_all [Rebuild.ended]
        · rename_i fresh
          simp only [List.getLast?_singleton, Option.isSome_some, true_iff, and_true]
          exact ⟨dict, called, Option.not_isSome_iff_eq_none.mp fresh⟩

theorem recorded_iff (self : String) (out : Outgoing) (rounds : List Round) (archives : Archives) :
    Recorded self out archives (sendMessage p self out rounds archives) ↔
      Taken p (sendMessage p self out rounds archives).puts.getLast? := by
  obtain ⟨taken, told⟩ := @sendMessage_last p self out rounds archives
  have writes := @sendMessage_writes p self out rounds archives
  rw [← taken, Recorded, told]
  constructor
  · exact fun recorded => recorded.1
  · intro saved
    refine ⟨saved, ?_⟩
    obtain ⟨message, same⟩ := Option.isSome_iff_exists.mp saved
    rw [Sending.Writes, same] at writes
    obtain ⟨between, upkeep, stored⟩ := writes
    refine ⟨message, same, ?_⟩
    rw [stored, MessagesStorage.getMessages_save, if_pos ⟨rfl, rfl⟩, upkeep.getMessages_eq]

end Ios

/-- A sent message is recorded, and success reported, for just those messages that the server
    accepted, exactly when the last reply to it is a regular one. -/
theorem recorded_iff_accepted_iff (android : Android.Platform) (ios : Ios.Platform) :
    (∀ (out : Android.Outgoing) (rounds : List Android.Round) (files : Android.Files),
      let sending := Android.SignalClient.sendMessage android out rounds files
      (∀ saved ∈ sending.saved, Android.MessageStorage.Storable android out.username out.messageTag saved.before) →
      ((Android.Recorded android out sending ↔ Android.Accepted android sending.puts.getLast?) ↔
        ∀ response, sending.puts.getLast? = some (.answered response) → Android.Regular android response)) ∧
    ∀ (self : String) (out : Ios.Outgoing) (rounds : List Ios.Round) (archives : Ios.Archives),
      let sending := Ios.SignalClient.sendMessage ios self out rounds archives
      ((Ios.Recorded self out archives sending ↔ Ios.Accepted ios sending.puts.getLast?) ↔
        ∀ statusCode data, sending.puts.getLast? = some (.answered statusCode data) → Ios.Regular ios statusCode data) := by
  constructor
  · intro out rounds files sending storable
    rw [Android.recorded_iff storable]
    change (Android.Taken android sending.puts.getLast? ↔ _) ↔ _
    rcases sending.puts.getLast? with _ | ⟨_ | _ | response⟩
    · simp [Android.Taken, Android.Accepted]
    · simp [Android.Taken, Android.Accepted]
    · simp [Android.Taken, Android.Accepted]
    · have regular := @Android.regular_iff android response
      simpa [Android.Taken, Android.Accepted] using regular
  · intro self out rounds archives sending
    rw [Ios.recorded_iff]
    change (Ios.Taken ios sending.puts.getLast? ↔ _) ↔ _
    rcases sending.puts.getLast? with _ | ⟨_ | _ | ⟨statusCode, data⟩⟩
    · simp [Ios.Taken, Ios.Accepted]
    · simp [Ios.Taken, Ios.Accepted, Ios.SignalServer.call]
    · simp [Ios.Taken, Ios.Accepted, Ios.SignalServer.call]
    · rw [Ios.regular_iff]
      simp

section Unaccepted

def replyText (text : String) : Option (List Char) := some text.toList

def toBob : Android.Outgoing := ⟨"bob", "hi", none, none, "chat", false⟩

def attempt (put : Android.Response) : Android.Round where
  timestamp := .answered ⟨200, replyText "\x7b\"timestamp\":9\x7d"⟩
  encryption := .ciphertext [1] 2 []
  put := .answered put
  keys := .answered ⟨200, some (Plain.keysAnswer Plain.bobDevice)⟩
  process _ := .ok []

def iosToBob : Ios.Outgoing := ⟨"bob", "hi", "", "", "chat", false⟩

def iosAttempt (statusCode : Nat) (data : String) : Ios.Round where
  store := true
  encryption := .ciphertext [1] 2 []
  put := .answered statusCode data.toList
  currentTimestamp := 9
  keysStore := true
  keys := .failed
  process _ := .ok []

def retried : Android.Sending :=
  Android.SignalClient.sendMessage .plain toBob
    [attempt ⟨410, replyText "\x7b\"staleDevices\":[1]\x7d"⟩, attempt ⟨200, replyText "\x7b\x7d"⟩] Android.noFiles

theorem retried_message_is_recorded :
    retried.puts.length = 2 ∧ (Android.Recorded .plain toBob retried ↔ Android.Accepted .plain retried.puts.getLast?) ∧
    let sending := Ios.SignalClient.sendMessage .plain "alice" iosToBob [iosAttempt 200 "\x7b\x7d"] fun _ => none
    (Ios.Recorded "alice" iosToBob (fun _ => none) sending ↔ Ios.Accepted .plain sending.puts.getLast?) := by
  have usable : ∀ saved ∈ retried.saved,
      (Android.MessageStorage.withContact .plain "bob" saved.before).tree.resolve []
        (Android.MessageStorage.fileNames "bob" .messages) = some ["messages.json", "bob", "messages"] ∧
      (Android.MessageStorage.withContact .plain "bob" saved.before).tree.stat ["messages.json", "bob", "messages"] ≠
        some .dir ∧
      saved.before.outcomes ["messages.json", "bob", "messages"] = [] ∧
      Android.MessageStorage.readHistory .plain "bob" .messages
        (Android.MessageStorage.withContact .plain "bob" saved.before) = .ok [] := by decide +kernel
  refine ⟨by decide +kernel, ((recorded_iff_accepted_iff .plain .plain).1 toBob _ Android.noFiles fun saved member => ?_).mpr ?_,
    ((recorded_iff_accepted_iff .plain .plain).2 "alice" iosToBob [iosAttempt 200 "\x7b\x7d"] fun _ => none).mpr ?_⟩
  · obtain ⟨found, leaf, queued, readable⟩ := usable saved member
    exact ⟨⟨_, ⟨found, leaf⟩, by simp [Disk.NextWritten, queued]⟩, [], readable⟩
  · intro response last
    have reply : retried.puts.getLast? = some (.answered ⟨200, replyText "\x7b\x7d"⟩) := by decide +kernel
    have unnamed : Android.staleField .plain ⟨200, replyText "\x7b\x7d"⟩ = none := by decide +kernel
    cases reply.symm.trans last
    rw [Android.Regular, unnamed]
    exact ⟨by decide, by decide⟩
  · intro statusCode data last
    cases last
    exact .inl ⟨by decide, by decide⟩

/-- A server error counts as success, and on iOS an accepted message whose reply has no body fails. -/
theorem refused_message_is_recorded :
    let refused := Android.SignalClient.sendMessage .plain toBob [attempt ⟨500, replyText ""⟩] Android.noFiles
    let iosRefused := Ios.SignalClient.sendMessage .plain "alice" iosToBob [iosAttempt 500 "\x7b\x7d"] fun _ => none
    let accepted := Ios.SignalClient.sendMessage .plain "alice" iosToBob [iosAttempt 200 ""] fun _ => none
    (refused.puts = [.answered ⟨500, replyText ""⟩] ∧ refused.settlement = .ok (some (.resolve "ok")) ∧
      (Android.MessageStorage.getContactMessages .plain "bob" "chat" Android.noFiles).length = 0 ∧
      (Android.MessageStorage.getContactMessages .plain "bob" "chat" refused.files).length = 1) ∧
    (iosRefused.puts = [.answered 500 ['\x7b', '\x7d']] ∧ iosRefused.result = .success ∧
      (Ios.MessagesStorage.getMessages "alice" "chat" iosRefused.archives).length = 1) ∧
    accepted.puts = [.answered 200 []] ∧ accepted.result = .failure ⟨.ERR_SERVER_FAILED, .server .decoding⟩ ∧
      accepted.saved = none := by
  decide +kernel

end Unaccepted
end PillarSignal
