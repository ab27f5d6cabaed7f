import PillarSignal.Storage.StableSort
import PillarSignal.Properties.Delivery
import PillarSignal.Properties.Promises

namespace PillarSignal.Android

open Storage Reaction RNSignalClientModule

variable {p : Platform}

def Ascending (p : Platform) (messages : List Json) : Prop :=
  messages.Pairwise fun one other => savedTimestamp p one ≤ savedTimestamp p other

def savedIn (p : Platform) (messages : List Json) (second : Int) : List Json := fibre (savedTimestamp p) messages second

theorem map_optJSONObject {messages : List Json} (objects : ∀ message ∈ messages, ∃ members, message = .obj members) :
    messages.map optJSONObject = messages := by
  rw [List.map_congr_left, List.map_id]
  intro message member
  obtain ⟨members, rfl⟩ := objects message member
  rfl

theorem getMessagesByContact_objects (username tag : String) (files : Files)
    (objects : ∀ message ∈ MessageStorage.getContactMessages p username tag files, ∃ members, message = .obj members) :
    RNSignalClientModule.getMessagesByContact p username tag files =
      .ok (descending (savedTimestamp p) (MessageStorage.getContactMessages p username tag files)) := by
  have none_null : Json.null ∉ MessageStorage.getContactMessages p username tag files := by
    intro member
    obtain ⟨members, same⟩ := objects _ member
    cases same
  rw [RNSignalClientModule.getMessagesByContact, map_optJSONObject objects]
  exact if_neg fun both => none_null both.2

theorem lastMessage_of_username {username : String} {files : Files} {chat : List (String × Json)}
    (member : chat ∈ MessageStorage.getExistingMessages p "chat" files)
    (named : chat.lookup "username" = some (.str username)) :
    chat.lookup "lastMessage" = (MessageStorage.getContactMessages p username "chat" files).getLast? := by
  obtain ⟨name, _, rfl⟩ := List.mem_map.mp member
  have same : name = username := by
    cases last : (MessageStorage.getContactMessages p name "chat" files).getLast? <;>
      simpa [last, lookup_put] using named
  subst same
  cases (MessageStorage.getContactMessages p name "chat" files).getLast? <;> simp [lookup_put]

/-- The history comes newest first exactly when the messages of every single second read the same in both directions;
    its first message is the last one stored exactly when that is also the first one stored of its second. -/
theorem history_is_newest_first_iff (http : OkHttp) (p : Platform) (ciphers : Ciphers) (module : RNSignalClientModule)
    (username tag : String) (messages : List Json)
    (stored : MessageStorage.getContactMessages p username tag module.files = messages)
    (objects : ∀ message ∈ messages, ∃ members, message = .obj members) (ascending : Ascending p messages) :
    ∃ returned, RNSignalClientModule.getMessagesByContact p username tag module.files = .ok returned ∧
      (Method.getMessagesByContact username tag).start http p ciphers module =
        telling [.resolve (String.ofList (p.json.print (.arr returned)))] module.files ∧
      (returned = messages.reverse ↔ ∀ second, (savedIn p messages second).reverse = savedIn p messages second) ∧
      (tag = "chat" → ∀ chat ∈ MessageStorage.getExistingMessages p "chat" module.files,
        chat.lookup "username" = some (.str username) →
          (returned.head? = chat.lookup "lastMessage" ↔ ∀ last, messages.getLast? = some last →
            (savedIn p messages (savedTimestamp p last)).head? = some last)) := by
  subst stored
  have sorted := getMessagesByContact_objects username tag module.files objects
  refine ⟨_, sorted, ?_, descending_eq_reverse_iff ascending, ?_⟩
  · rw [Method.start, sorted]
    rfl
  · intro chatTag chat member named
    subst chatTag
    rw [lastMessage_of_username member named]
    cases ends : (MessageStorage.getContactMessages p username "chat" module.files).getLast? with
    | none => simp [List.getLast?_eq_none_iff.mp ends, descending]
    | some last =>
      rw [head?_descending ascending ends]
      simp [savedIn]

section Ties

def savedMessage (content : String) (savedTimestamp : Int) : Json :=
  .obj [("content", .str content), ("savedTimestamp", .num savedTimestamp)]

def withHistory (messages : List Json) : RNSignalClientModule :=
  ⟨none, "alice", bobFiles (String.ofList (Platform.plain.json.print (.arr messages)))⟩

theorem distinct_seconds_are_turned_around :
    RNSignalClientModule.getMessagesByContact .plain "bob" "chat"
      (withHistory [savedMessage "a" 7, savedMessage "b" 8]).files = .ok [savedMessage "b" 8, savedMessage "a" 7] := by
  obtain ⟨returned, same, _, turned, _⟩ := history_is_newest_first_iff Method.lenient .plain plainCiphers
    (withHistory [savedMessage "a" 7, savedMessage "b" 8]) "bob" "chat" [savedMessage "a" 7, savedMessage "b" 8]
    (by decide +kernel) (by simp [savedMessage]) (by unfold Ascending; decide +kernel)
  rw [same, turned.mpr]
  · rfl
  · intro second
    have seven : savedTimestamp .plain (savedMessage "a" 7) = 7 := by decide +kernel
    have eight : savedTimestamp .plain (savedMessage "b" 8) = 8 := by decide +kernel
    rw [savedIn, fibre_cons, fibre_cons, seven, eight]
    by_cases first : 7 = second
    · have other : ¬ 8 = second := by omega
      rw [if_pos first, if_neg other]
      rfl
    · rw [if_neg first]
      split <;> rfl

/-- Two messages of one second stay as they were stored, and the first is not the one reported as the last message. -/
theorem messages_of_one_second_are_not_turned_around :
    let files := (withHistory [savedMessage "a" 7, savedMessage "b" 7]).files
    MessageStorage.getContactMessages .plain "bob" "chat" files = [savedMessage "a" 7, savedMessage "b" 7] ∧
      RNSignalClientModule.getMessagesByContact .plain "bob" "chat" files =
        .ok [savedMessage "a" 7, savedMessage "b" 7] ∧
      MessageStorage.getExistingMessages .plain "chat" files =
        [[("username", .str "bob"), ("lastMessage", savedMessage "b" 7), ("unread", .num 0)]] := by
  intro files
  have stored : MessageStorage.getContactMessages .plain "bob" "chat" files =
      [savedMessage "a" 7, savedMessage "b" 7] := by
    decide +kernel
  refine ⟨stored, ?_, by decide +kernel⟩
  rw [getMessagesByContact_objects "bob" "chat" files (by rw [stored]; simp [savedMessage]), stored]
  exact congrArg Except.ok (List.mergeSort_of_pairwise (by decide +kernel))

end Ties
end PillarSignal.Android
