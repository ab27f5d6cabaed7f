import PillarSignal.Android.Receive

namespace PillarSignal.Android

open Storage MessageStorage

variable {p : Platform} {username tag : String}

def Held (p : Platform) (username tag : String) (message : Json) (files : Files) : Prop :=
  ∃ path messages, Reaches p username (getMessageStoreFilename tag) files path ∧
    readHistory p username (getMessageStoreFilename tag) files = .ok messages ∧ message ∈ messages

theorem Held.mem {message : Json} {files : Files} (held : Held p username tag message files) :
    message ∈ getContactMessages p username tag files := by
  obtain ⟨path, messages, _, readable, member⟩ := held
  rw [getContactMessages, readable]
  exact member

theorem Held.framed {message : Json} {before after : Files} (held : Held p username tag message before)
    (framed : ProtocolStorage.Framed p before after) : Held p username tag message after := by
  obtain ⟨path, messages, reaches, readable, member⟩ := held
  obtain ⟨later, same⟩ := reaches.framed framed
  exact ⟨path, messages, later, same.trans readable, member⟩

theorem Held.storeMessage {message : Json} {files : Files} (held : Held p username tag message files)
    (storable : Storable p username tag files) (newMessage : Json) :
    Held p username tag message (storeMessage p username newMessage tag files) := by
  obtain ⟨path, messages, reaches, readable, member⟩ := held
  obtain ⟨place, before, later, found, stored⟩ := storable.stored newMessage
  rw [reaches.withContact_eq, readable] at found
  cases found
  exact ⟨place, _, later, stored, by simp [member]⟩

theorem held_of_storable {files : Files} (storable : Storable p username tag files) (newMessage : Json) :
    Held p username tag newMessage (MessageStorage.storeMessage p username newMessage tag files) := by
  obtain ⟨place, before, later, _, stored⟩ := storable.stored newMessage
  exact ⟨place, _, later, stored, by simp⟩

def AllStorable (p : Platform) (handled : List Handled) : Prop :=
  ∀ one ∈ handled, one.message ≠ none → Storable p one.envelope.source one.tag one.decrypted

theorem Held.delivers {message : Json} {before after : Files} {handled : List Handled}
    (held : Held p username tag message before) (delivers : Delivers p before handled after)
    (asked : ∀ one ∈ handled, one.envelope.source = username ∧ one.tag = tag) (storable : AllStorable p handled) :
    Held p username tag message after := by
  induction delivers with
  | done upkeep => exact held.framed upkeep.framed
  | @next before after one later upkeep faithful _ ih =>
    obtain ⟨rfl, rfl⟩ := asked one (by simp)
    have decrypted := held.framed upkeep.framed
    apply ih _ (fun other member => asked other (by simp [member])) (fun other member => storable other (by simp [member]))
    unfold Handled.after
    split
    · exact decrypted
    · rename_i entry stored
      exact decrypted.storeMessage (storable one (by simp) (by simp [stored])) entry

theorem handled_held {before after : Files} {handled : List Handled} (delivers : Delivers p before handled after)
    (asked : ∀ one ∈ handled, one.envelope.source = username ∧ one.tag = tag) (storable : AllStorable p handled) :
    ∀ one ∈ handled, one.draw.attempts.reportedDuplicate = true ∨ ∃ entry, toMessageJSONO p one.draw.attempts.plaintext
      one.envelope.source 1 one.envelope.timestamp one.draw.currentTimeMillis = .ok entry ∧
        Held p username tag entry after := by
  induction delivers with
  | done => simp
  | @next before after one later upkeep faithful rest ih =>
    have others := fun other (member : other ∈ later) => asked other (by simp [member])
    have storables : AllStorable p later := fun other member => storable other (by simp [member])
    intro other member
    rcases List.mem_cons.mp member with rfl | member
    · obtain ⟨rfl, rfl⟩ := asked other (by simp)
      unfold Handled.Faithful at faithful
      cases stored : other.message with
      | none =>
        rw [stored] at faithful
        exact .inl faithful
      | some entry =>
        rw [stored] at faithful
        refine .inr ⟨entry, faithful.2, ?_⟩
        refine Held.delivers ?_ rest others storables
        rw [Handled.after, stored]
        exact held_of_storable (storable other (by simp) (by simp [stored])) entry
    · exact ih others storables other member

/-- Whatever the queue and the decryptions, an envelope that a pull deletes from the server is a reported
    duplicate or has its entry in the history, provided that every entry could be appended. -/
theorem deleted_entries_are_kept (p : Platform) (username messageTag : String) (decodeAndSave : Bool)
    (exchange : Exchange) (draws : Nat → Draw) (files : Files)
    (storable : AllStorable p
      (SignalClient.getContactMessages p username messageTag decodeAndSave exchange draws files).handled) :
    let received := SignalClient.getContactMessages p username messageTag decodeAndSave exchange draws files
    received.deletes = received.handled.map
      (fun one => SignalClient.deleteUrl one.envelope.source one.envelope.timestamp) ∧
    ∀ one ∈ received.handled, one.draw.attempts.reportedDuplicate = true ∨ ∃ entry,
      toMessageJSONO p one.draw.attempts.plaintext one.envelope.source 1 one.envelope.timestamp
        one.draw.currentTimeMillis = .ok entry ∧
      entry ∈ MessageStorage.getContactMessages p one.envelope.source one.tag received.files := by
  intro received
  obtain ⟨delivers, deletes, asked⟩ :=
    @SignalClient.getContactMessages_delivers p username messageTag decodeAndSave exchange draws files
  refine ⟨deletes, fun one member => ?_⟩
  obtain ⟨source, tag⟩ := asked one member
  rcases handled_held delivers asked storable one member with duplicate | ⟨entry, made, held⟩
  · exact .inl duplicate
  · right
    refine ⟨entry, made, ?_⟩
    rw [source, tag]
    exact held.mem

section Loss

def bobFiles (history : String) : Files :=
  filesIn ["bob", "messages"] [("messages.json", history)]
    (filesIn ["signal"] [("sessions.json", "\x7b\"bob:1\":\"s\"\x7d")] noFiles)

def bobQueue : Response := ⟨200, some Plain.bobQueue⟩

def undecryptable : Draw :=
  ⟨⟨.throws .invalidMessage [], .throws .invalidMessage [], .throws .invalidMessage []⟩, 1000⟩

def bobPull (files : Files) : SignalClient.Received :=
  SignalClient.getContactMessages .plain "bob" "chat" true (.answered bobQueue) (fun _ => undecryptable) files

theorem undecryptable_entry_is_kept :
    (bobPull (bobFiles "[]")).deletes = ["/v1/messages/bob/5"] ∧
    ∀ one ∈ (bobPull (bobFiles "[]")).handled, one.draw.attempts.reportedDuplicate = true ∨ ∃ entry,
      toMessageJSONO .plain one.draw.attempts.plaintext one.envelope.source 1 one.envelope.timestamp
        one.draw.currentTimeMillis = .ok entry ∧
      entry ∈ MessageStorage.getContactMessages .plain one.envelope.source one.tag (bobPull (bobFiles "[]")).files := by
  have usable : ∀ one ∈ (bobPull (bobFiles "[]")).handled,
      (withContact .plain one.envelope.source one.decrypted).tree.resolve []
        (fileNames one.envelope.source (getMessageStoreFilename one.tag)) = some ["messages.json", "bob", "messages"] ∧
      (withContact .plain one.envelope.source one.decrypted).tree.stat ["messages.json", "bob", "messages"] ≠ some .dir ∧
      one.decrypted.outcomes ["messages.json", "bob", "messages"] = [] ∧
      readHistory .plain one.envelope.source (getMessageStoreFilename one.tag)
        (withContact .plain one.envelope.source one.decrypted) = .ok [] := by decide +kernel
  refine ⟨by decide +kernel, (deleted_entries_are_kept .plain "bob" "chat" true (.answered bobQueue) (fun _ => undecryptable)
    (bobFiles "[]") fun one member _ => ?_).2⟩
  obtain ⟨found, leaf, queued, readable⟩ := usable one member
  exact ⟨⟨_, ⟨found, leaf⟩, by simp [Disk.NextWritten, queued]⟩, [], readable⟩

def fullDisk (files : Files) : Files := { files with outcomes := fun _ => [.notOpened] }

theorem deleted_entry_is_lost :
    ((bobPull (bobFiles "x")).deletes = ["/v1/messages/bob/5"] ∧
      (bobPull (bobFiles "x")).handled.map (fun one => one.draw.attempts.reportedDuplicate) = [false] ∧
      MessageStorage.getContactMessages .plain "bob" "chat" (bobPull (bobFiles "x")).files = []) ∧
    (bobPull (fullDisk (bobFiles "[]"))).deletes = ["/v1/messages/bob/5"] ∧
      (bobPull (fullDisk (bobFiles "[]"))).handled.map (fun one => one.draw.attempts.reportedDuplicate) = [false] ∧
      MessageStorage.getContactMessages .plain "bob" "chat" (bobPull (fullDisk (bobFiles "[]"))).files = [] := by
  decide +kernel

end Loss
end PillarSignal.Android
