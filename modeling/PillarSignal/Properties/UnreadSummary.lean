import PillarSignal.Storage.Grouping
import PillarSignal.Properties.EntryFields

namespace PillarSignal

open Storage

/-- The timestamps of the ciphertexts that a source has in the queue under a tag, in the order of the queue. -/
def unreadTimestamps (queue : List QueueMessage) (tag source : String) : List Int :=
  ((queue.filter fun entry => tag = entry.tag.getD "" ∧ entry.type = 1).filter fun entry => entry.source = source).map
    fun entry => entry.timestamp

def unreadOf (count latest : Int) : Json := .obj [("count", .num count), ("latest", .num latest)]

/-- One key for each source that has such entries, with their number and the largest of their timestamps. -/
structure Summarizes (queue : List QueueMessage) (tag : String) (unread : List (String × Json)) : Prop where
  keys : (unread.map Prod.fst).Nodup
  rows : ∀ source, unread.lookup source =
    (unreadTimestamps queue tag source).max?.map (unreadOf (unreadTimestamps queue tag source).length)

theorem unreadTimestamps_nonnegative {queue : List QueueMessage} {tag source : String} {timestamp : Int}
    (member : timestamp ∈ unreadTimestamps queue tag source) : 0 ≤ timestamp ∧ timestamp < 2 ^ 63 := by
  obtain ⟨entry, _, rfl⟩ := List.mem_map.mp member
  exact ⟨entry.nonnegative, entry.bounds.2⟩

theorem max?_concat (timestamps : List Int) (timestamp : Int) :
    (timestamps ++ [timestamp]).max? = some (max (timestamps.max?.getD timestamp) timestamp) := by
  rw [List.max?_eq_some_iff]
  cases largest : timestamps.max? with
  | none =>
    rw [List.max?_eq_none_iff] at largest
    simp [largest]
  | some latest =>
    obtain ⟨member, bound⟩ := List.max?_eq_some_iff.mp largest
    constructor
    · rcases max_choice latest timestamp with same | same
      · simp [same, member]
      · simp [same]
    · intro other held
      rcases List.mem_append.mp held with earlier | last
      · exact (bound other earlier).trans (le_max_left ..)
      · rw [List.mem_singleton.mp last]
        exact le_max_right ..

theorem Summarizes.perm {queue other : List QueueMessage} {tag : String} {unread : List (String × Json)}
    (reordered : queue.Perm other) (summarizes : Summarizes queue tag unread) : Summarizes other tag unread where
  keys := summarizes.keys
  rows source := by
    have timestamps : (unreadTimestamps queue tag source).Perm (unreadTimestamps other tag source) :=
      ((reordered.filter _).filter _).map _
    have largest : (unreadTimestamps queue tag source).max? = (unreadTimestamps other tag source).max? := by
      cases latest : (unreadTimestamps other tag source).max? with
      | none =>
        rw [List.max?_eq_none_iff] at latest ⊢
        rw [latest] at timestamps
        exact timestamps.eq_nil
      | some value =>
        rw [List.max?_eq_some_iff] at latest ⊢
        exact ⟨timestamps.mem_iff.mpr latest.1, fun one member => latest.2 one (timestamps.mem_iff.mp member)⟩
    rw [summarizes.rows source, largest, timestamps.length_eq]

namespace Android.SignalClient

variable {p : Platform}

def countStep (p : Platform) (timestamp : Int) : Option Json → Json
  | some (.obj members) => .obj (countMessage p timestamp members)
  | _ => .obj (countMessage p timestamp [])

theorem countUnread_eq (source : String) (timestamp : Int) (unread : JSONObject) :
    countUnread p source timestamp unread = put source (countStep p timestamp (unread.lookup source)) unread := by
  unfold countUnread countStep OrgJson.optJSONObject
  cases unread.lookup source with
  | none => rfl
  | some value => cases value <;> rfl

theorem countStep_first {timestamp : Int} (nonnegative : 0 ≤ timestamp) :
    countStep p timestamp none = unreadOf (toInt 1) timestamp := by
  have latest : (if timestamp > 0 then timestamp else 0) = timestamp := by
    split <;> omega
  have shape : countStep p timestamp none = unreadOf (toInt 1) (if timestamp > 0 then timestamp else 0) := rfl
  rw [shape, latest]

theorem countStep_next {count latest timestamp : Int} (small : 0 ≤ latest ∧ latest < 2 ^ 63) :
    countStep p timestamp (some (unreadOf (toInt count) latest)) = unreadOf (toInt (count + 1)) (max latest timestamp) := by
  have counted : toInt (toInt (toInt count) + 1) = toInt (count + 1) := by
    unfold toInt
    rw [Int.bmod_bmod, Int.bmod_add_bmod]
  have larger : (if timestamp > toLong latest then timestamp else toLong latest) = max latest timestamp := by
    rw [toLong_of_small (by omega) small.2]
    split <;> omega
  simp only [countStep, countMessage, unreadOf, OrgJson.optLong, OrgJson.optInt, OrgJson.asInteger, OrgJson.asLong, lookup_cons_ite,
    String.reduceEq, if_true, if_false, Option.bind_some, Option.getD_some, put, counted, larger]

theorem counted_row (timestamps : List Int) (small : ∀ timestamp ∈ timestamps, 0 ≤ timestamp ∧ timestamp < 2 ^ 63) :
    timestamps.foldl (fun held timestamp => some (countStep p timestamp held)) none =
      timestamps.max?.map (unreadOf (toInt timestamps.length)) := by
  induction timestamps using List.reverseRecOn with
  | nil => rfl
  | append_singleton timestamps timestamp ih =>
    have last := small timestamp (by simp)
    rw [List.foldl_concat, ih fun one member => small one (by simp [member]), max?_concat, List.length_append,
      List.length_singleton]
    cases largest : timestamps.max? with
    | none =>
      rw [List.max?_eq_none_iff.mp largest, Option.map_none, countStep_first last.1]
      simp
    | some latest =>
      have bounds := small latest (List.mem_append_left _ (List.max?_eq_some_iff.mp largest).1)
      rw [Option.map_some, countStep_next bounds]
      simp

theorem ciphertext_iff (integers : p.json.WritesIntegers) (type : Int) :
    MESSAGE_TYPE_CIPHERTEXT = p.json.toText (.num type) ↔ type = 1 := by
  have text : p.json.toText (.num type) = Decimal.toText type := by
    rw [OrgJson.toText, integers type, Decimal.toText]
    simp
  have one : MESSAGE_TYPE_CIPHERTEXT = Decimal.toText 1 := by decide
  rw [text, one]
  exact ⟨fun same => (Decimal.toText_injective same).symm, fun same => by rw [same]⟩

theorem pullEntry_counts (integers : p.json.WritesIntegers) (username tag : String) (entry : QueueMessage) (draw : Draw)
    (state : Pull) :
    pullEntry p username tag false entry.json draw state =
      (.ok (), if tag = entry.tag.getD "" ∧ entry.type = 1 then
        { state with unread := countUnread p entry.source entry.timestamp state.unread } else state) := by
  rw [pullEntry, QueueEntry.json]
  simp only [bind, Except.bind, pure, Except.pure, getString_text entry.has_text, getString_text entry.has_source,
    getString_eq entry.has_type, optString_tag, optLong_timestamp, ciphertext_iff integers]
  by_cases tagged : tag = entry.tag.getD ""
  · by_cases ciphertext : entry.type = 1
    · simp [tagged, ciphertext]
    · simp [tagged, ciphertext]
  · simp [tagged]

theorem pullLoop_counts (integers : p.json.WritesIntegers) (username tag : String) (draws : Nat → Draw) (i : Nat)
    (queue : List QueueMessage) (state : Pull) :
    pullLoop p username tag false draws i (queue.map fun entry => entry.json) state =
      (none, { state with
        unread := grouped (fun entry : QueueMessage => entry.source) (fun entry => countStep p entry.timestamp)
          (queue.filter fun entry => tag = entry.tag.getD "" ∧ entry.type = 1) state.unread }) := by
  induction queue generalizing i state with
  | nil => rfl
  | cons entry queue ih =>
    rw [List.map_cons, pullLoop, pullEntry_counts integers, List.filter_cons]
    dsimp only
    by_cases counts : tag = entry.tag.getD "" ∧ entry.type = 1
    · rw [if_pos counts, if_pos (decide_eq_true counts), ih, countUnread_eq]
      rfl
    · rw [if_neg counts, if_neg (by simpa using counts), ih]

theorem lookup_counted (tag source : String) (queue : List QueueMessage) :
    (grouped (fun entry : QueueMessage => entry.source) (fun entry => countStep p entry.timestamp)
      (queue.filter fun entry => tag = entry.tag.getD "" ∧ entry.type = 1) []).lookup source =
      (unreadTimestamps queue tag source).max?.map (unreadOf (toInt (unreadTimestamps queue tag source).length)) := by
  rw [lookup_grouped, ← @counted_row p _ fun timestamp member => unreadTimestamps_nonnegative member, unreadTimestamps,
    List.foldl_map]
  rfl

theorem counted_summarizes_iff (queue : List QueueMessage) (tag : String) :
    Summarizes queue tag (grouped (fun entry : QueueMessage => entry.source) (fun entry => countStep p entry.timestamp)
      (queue.filter fun entry => tag = entry.tag.getD "" ∧ entry.type = 1) []) ↔
        ∀ source, (unreadTimestamps queue tag source).length < 2 ^ 31 := by
  constructor
  · intro summarizes source
    have row := summarizes.rows source
    rw [lookup_counted] at row
    cases largest : (unreadTimestamps queue tag source).max? with
    | none =>
      rw [List.max?_eq_none_iff.mp largest]
      simp
    | some latest =>
      rw [largest] at row
      have exact_ : toInt (unreadTimestamps queue tag source).length = (unreadTimestamps queue tag source).length := by
        simpa [unreadOf] using row
      have below : toInt (unreadTimestamps queue tag source).length < 2 ^ 31 := by
        have bound := @Int.bmod_lt (unreadTimestamps queue tag source).length (2 ^ 32) (by decide)
        unfold toInt
        omega
      omega
  · intro few
    refine ⟨nodup_keys_grouped _ List.nodup_nil, fun source => ?_⟩
    have bound := few source
    rw [lookup_counted, toInt_of_small (by omega) (by omega)]

end Android.SignalClient

namespace Ios.SignalClient

variable {p : Platform}

def countStep (timestamp : Int) (held : Option (List (String × AnyNumber))) : List (String × AnyNumber) :=
  countMessage timestamp (held.getD [])

/-- The latest timestamp as it is stored, which is read back as 0. -/
def storedLatest (timestamp : Int) : AnyNumber := if timestamp > 0 then .int64 timestamp else .int 0

theorem asInt_storedLatest (timestamp : Int) : (storedLatest timestamp).asInt.getD 0 = 0 := by
  unfold storedLatest
  split <;> rfl

theorem json_storedLatest {timestamp : Int} (nonnegative : 0 ≤ timestamp) :
    (storedLatest timestamp).json = .num timestamp := by
  unfold storedLatest
  split
  · rfl
  · have zero : timestamp = 0 := by omega
    rw [zero]
    rfl

theorem countStep_next (count latest timestamp : Int) :
    countStep timestamp (some [("count", .int count), ("latest", storedLatest latest)]) =
      [("count", .int (count + 1)), ("latest", storedLatest timestamp)] := by
  simp only [countStep, countMessage, lookup_cons_ite, String.reduceEq, if_true, if_false, Option.bind_some,
    Option.getD_some, put, asInt_storedLatest]
  rfl

/-- The last entry of a source decides about its latest timestamp. -/
theorem counted_row (timestamps : List Int) :
    timestamps.foldl (fun held timestamp => some (countStep timestamp held)) none =
      timestamps.getLast?.map fun last => [("count", .int timestamps.length), ("latest", storedLatest last)] := by
  induction timestamps using List.reverseRecOn with
  | nil => rfl
  | append_singleton timestamps timestamp ih =>
    rw [List.foldl_concat, ih, List.getLast?_concat, List.length_append, List.length_singleton]
    cases last : timestamps.getLast? with
    | none =>
      rw [List.getLast?_eq_none_iff.mp last]
      rfl
    | some latest =>
      rw [Option.map_some, countStep_next]
      simp

theorem type_eq (entry : QueueMessage) : MessageDTO.type ⟨entry.members⟩ = entry.type := by
  rw [MessageDTO.type, entry.has_type, Option.bind_some, asInt_num entry.type_bounds, Option.getD_some]

theorem parseEntry_counts (tag : String) (entry : QueueMessage) (draw : Draw) (state : Parsing) :
    parseEntry p "" tag false entry.members draw state =
      if tag = entry.tag.getD "" ∧ entry.type = 1 then
        { state with
          unread := put entry.source (countStep entry.timestamp (state.unread.lookup entry.source)) state.unread }
      else state := by
  have skipped : ∀ archives, decodable p "" false ⟨entry.members⟩ archives = false := by
    intro archives
    simp [decodable]
  have counted : countUnread ⟨entry.members⟩ state.unread =
      put entry.source (countStep entry.timestamp (state.unread.lookup entry.source)) state.unread := by
    rw [countUnread, source_eq, timestamp_eq]
    rfl
  rw [parseEntry, tag_eq, type_eq, counted, MESSAGE_TYPE_CIPHERTEXT]
  simp only [skipped, Bool.false_eq_true, if_false]
  by_cases tagged : tag = entry.tag.getD ""
  · simp [tagged, eq_comm]
  · simp [tagged]

theorem parseLoop_counts (tag : String) (draws : Nat → Draw) (i : Nat) (queue : List QueueMessage) (state : Parsing) :
    parseLoop p "" tag false draws i (queue.map fun entry => entry.members) state =
      { state with
        unread := grouped (fun entry : QueueMessage => entry.source) (fun entry => countStep entry.timestamp)
          (queue.filter fun entry => tag = entry.tag.getD "" ∧ entry.type = 1) state.unread } := by
  induction queue generalizing i state with
  | nil => rfl
  | cons entry queue ih =>
    rw [List.map_cons, parseLoop, parseEntry_counts, List.filter_cons, ih]
    by_cases counts : tag = entry.tag.getD "" ∧ entry.type = 1
    · rw [if_pos counts, if_pos (decide_eq_true counts)]
      rfl
    · rw [if_neg counts, if_neg (by simpa using counts)]

theorem lookup_json (unread : Unread) (source : String) :
    unread.json.lookup source =
      (unread.lookup source).map fun counts => .obj (counts.map fun (name, number) => (name, number.json)) := by
  induction unread with
  | nil => rfl
  | cons row unread ih =>
    obtain ⟨name, counts⟩ := row
    rw [Unread.json, List.map_cons, lookup_cons_ite, ← Unread.json, ih, lookup_cons_ite]
    split <;> rfl

theorem lookup_counted (tag source : String) (queue : List QueueMessage) :
    (Unread.json (grouped (fun entry : QueueMessage => entry.source) (fun entry => countStep entry.timestamp)
      (queue.filter fun entry => tag = entry.tag.getD "" ∧ entry.type = 1) [])).lookup source =
      (unreadTimestamps queue tag source).getLast?.map (unreadOf (unreadTimestamps queue tag source).length) := by
  have row := counted_row (unreadTimestamps queue tag source)
  rw [unreadTimestamps, List.foldl_map, ← unreadTimestamps] at row
  rw [lookup_json, lookup_grouped]
  refine (congrArg _ row).trans ?_
  cases last : (unreadTimestamps queue tag source).getLast? with
  | none => rfl
  | some latest =>
    have nonnegative := (unreadTimestamps_nonnegative (List.mem_of_getLast? last)).1
    simp only [Option.map_some, List.map_cons, List.map_nil, json_storedLatest nonnegative]
    rfl

theorem counted_summarizes_iff (queue : List QueueMessage) (tag : String) :
    Summarizes queue tag (Unread.json
      (grouped (fun entry : QueueMessage => entry.source) (fun entry => countStep entry.timestamp)
        (queue.filter fun entry => tag = entry.tag.getD "" ∧ entry.type = 1) [])) ↔
      ∀ source, (unreadTimestamps queue tag source).getLast? = (unreadTimestamps queue tag source).max? := by
  constructor
  · intro summarizes source
    have row := summarizes.rows source
    rw [lookup_counted] at row
    refine Option.map_injective (fun one other same => ?_) row
    simpa [unreadOf] using same
  · intro lasts
    refine ⟨?_, fun source => by rw [lookup_counted, lasts source]⟩
    rw [Unread.json, List.map_map]
    exact nodup_keys_grouped _ List.nodup_nil

end Ios.SignalClient

/-- The unread counts of a queue that both platforms are sent: what Android resolves with is the summary unless some
    source has so many entries that their number is no `int`, and what iOS resolves with is the summary exactly when the
    last entry of each source has the largest timestamp. Another order of the queue has the same summary. -/
theorem unread_is_count_and_maximum_iff (android : Android.Platform) (integers : android.json.WritesIntegers)
    (ios : Ios.Platform) (queue : List QueueMessage) (tag : String) (response : Android.Response)
    (answered : Android.SignalClient.queueOf android response = queue.map fun entry => entry.json)
    (dict : Ios.Dictionary) (decoded : dict.lookup "messages" = some (.arr (queue.map fun entry => entry.json)))
    (androidDraws : Nat → Android.Draw) (files : Android.Files) (iosDraws : Nat → Ios.Draw) (archives : Ios.Archives) :
    (∃ unread, (Android.SignalClient.getContactMessages android "" tag false (.answered response) androidDraws
        files).settlement = some (.resolve (String.ofList (android.json.print (.obj [("unread", .obj unread)])))) ∧
      (Summarizes queue tag unread ↔ ∀ source, (unreadTimestamps queue tag source).length < 2 ^ 31)) ∧
    (∃ unread, Ios.SignalClient.finalDict
        (Ios.SignalClient.parseMessages ios true "" tag false iosDraws dict archives).1 = [("unread", .obj unread)] ∧
      (Summarizes queue tag unread ↔
        ∀ source, (unreadTimestamps queue tag source).getLast? = (unreadTimestamps queue tag source).max?)) ∧
    ∀ other, queue.Perm other → ∀ unread, Summarizes queue tag unread ↔ Summarizes other tag unread := by
  refine ⟨⟨_, ?_, @Android.SignalClient.counted_summarizes_iff android queue tag⟩,
    ⟨_, ?_, Ios.SignalClient.counted_summarizes_iff queue tag⟩,
    fun other reordered unread => ⟨.perm reordered, .perm reordered.symm⟩⟩
  · rw [Android.SignalClient.getContactMessages_answered, answered, Android.SignalClient.pulled,
      Android.SignalClient.pullLoop_counts integers]
    rfl
  · have dictionaries : Ios.asDictionaries (.arr (queue.map fun entry => entry.json)) =
        some (queue.map fun entry => entry.members) := Ios.asDictionaries_map queue _
    rw [Ios.SignalClient.parseMessages, if_pos rfl, decoded, Option.bind_some, dictionaries]
    dsimp only
    rw [Ios.SignalClient.parseLoop_counts]
    rfl

section Queues

def chatMessage (source : String) (timestamp : Fin 1000) : QueueMessage where
  members := [("message", .str "m"), ("source", .str source), ("timestamp", .num timestamp.val), ("tag", .str "chat"),
    ("type", .num 1)]
  source
  timestamp := timestamp.val
  tag := some "chat"
  text := "m"
  type := 1
  has_source := by simp [lookup_cons_ite]
  has_timestamp := by simp [lookup_cons_ite]
  has_tag := by simp [lookup_cons_ite]
  has_text := by simp
  has_type := by simp [lookup_cons_ite]
  bounds := timestamp_bounds timestamp
  type_bounds := by decide
  nonnegative := by omega

def noDraw : Android.Draw := ⟨⟨.throws .invalidMessage [], .throws .invalidMessage [], .throws .invalidMessage []⟩, 0⟩

def noIosDraw : Ios.Draw := ⟨⟨.throws .other [], .throws .other [], .throws .other []⟩, 0⟩

theorem ordered_queue_is_summarized :
    let queue := [chatMessage "bob" 3, chatMessage "carol" 4, chatMessage "bob" 5]
    ∃ unread, Ios.SignalClient.finalDict (Ios.SignalClient.parseMessages .plain true "" "chat" false (fun _ => noIosDraw)
      (messagesDictionary (queue.map fun entry => entry.json)) Ios.noArchives).1 = [("unread", .obj unread)] ∧
        Summarizes queue "chat" unread := by
  intro queue
  obtain ⟨_, ⟨unread, returned, summarizes⟩, _⟩ := unread_is_count_and_maximum_iff .plain (fun _ => rfl) .plain queue "chat"
    (messagesResponse (queue.map fun entry => entry.json)) (queueOf_messagesResponse _)
    (messagesDictionary (queue.map fun entry => entry.json)) rfl (fun _ => noDraw) Android.noFiles (fun _ => noIosDraw)
    Ios.noArchives
  refine ⟨unread, returned, summarizes.mpr fun source => ?_⟩
  by_cases bob : "bob" = source
  · subst bob
    decide
  · by_cases carol : "carol" = source
    · subst carol
      decide
    · have silent : unreadTimestamps queue "chat" source = [] := by
        simp [unreadTimestamps, queue, chatMessage, bob, carol]
      rw [silent]
      rfl

theorem older_message_hides_the_latest :
    let queue := [(chatMessage "bob" 5).json, (chatMessage "bob" 3).json]
    (Android.SignalClient.getContactMessages .plain "" "chat" false (.answered (messagesResponse queue)) (fun _ => noDraw)
        Android.noFiles).settlement =
      some (.resolve "\x7b\"unread\":\x7b\"bob\":\x7b\"count\":2,\"latest\":5\x7d\x7d\x7d") ∧
    Ios.SignalClient.finalDict (Ios.SignalClient.parseMessages .plain true "" "chat" false (fun _ => noIosDraw)
        (messagesDictionary queue) Ios.noArchives).1 = [("unread", .obj [("bob", unreadOf 2 3)])] := by
  decide +kernel

end Queues
end PillarSignal
