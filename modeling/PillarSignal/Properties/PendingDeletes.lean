import PillarSignal.Properties.EntryFields
import PillarSignal.Properties.Promises
import PillarSignal.Properties.IosContinuations

namespace PillarSignal

open Storage

/-- A message of the contact that is still on the server, under the tag or under any. -/
def QueueEntry.Pending (username messageTag : String) (entry : QueueEntry) : Prop :=
  entry.source = username ∧ (messageTag = "*" ∨ entry.tag.getD "" = messageTag)

instance (username messageTag : String) : DecidablePred (QueueEntry.Pending username messageTag) :=
  fun _ => inferInstanceAs (Decidable (_ ∧ _))

def pendingUrls (username messageTag : String) (queue : List QueueEntry) : List String :=
  (queue.filter fun entry => entry.Pending username messageTag).map fun entry =>
    Android.SignalClient.deleteUrl username entry.timestamp

def fromUntagged (queue : List QueueEntry) : List QueueEntry := queue.dropWhile fun entry => entry.tag.isSome

theorem pendingUrls_cons (username messageTag : String) (entry : QueueEntry) (queue : List QueueEntry) :
    pendingUrls username messageTag (entry :: queue) =
      if entry.Pending username messageTag then
        Android.SignalClient.deleteUrl username entry.timestamp :: pendingUrls username messageTag queue
      else pendingUrls username messageTag queue := by
  rw [pendingUrls, List.filter_cons]
  by_cases pending : entry.Pending username messageTag
  · rw [if_pos (decide_eq_true pending), if_pos pending]
    rfl
  · rw [if_neg (by simpa using pending), if_neg pending]
    rfl

theorem pendingUrls_eq_nil_iff (username messageTag : String) (queue : List QueueEntry) :
    pendingUrls username messageTag queue = [] ↔ ∀ entry ∈ queue, ¬ entry.Pending username messageTag := by
  rw [pendingUrls, List.map_eq_nil_iff, List.filter_eq_nil_iff]
  simp

theorem pendingUrls_takeWhile_iff (username messageTag : String) (queue : List QueueEntry) :
    pendingUrls username messageTag (queue.takeWhile fun entry => entry.tag.isSome) = pendingUrls username messageTag queue ↔
      ∀ entry ∈ fromUntagged queue, ¬ entry.Pending username messageTag := by
  have split : pendingUrls username messageTag queue =
      pendingUrls username messageTag (queue.takeWhile fun entry => entry.tag.isSome) ++
        pendingUrls username messageTag (fromUntagged queue) := by
    rw [pendingUrls, pendingUrls, pendingUrls, fromUntagged, ← List.map_append, ← List.filter_append,
      List.takeWhile_append_dropWhile]
  rw [split, List.self_eq_append_right, pendingUrls_eq_nil_iff]

namespace Android.SignalClient

variable {p : Platform}

theorem pendingLoop_queue (username messageTag : String) (queue : List QueueEntry) :
    (pendingLoop p username messageTag (queue.map QueueEntry.json)).2 =
      pendingUrls username messageTag (queue.takeWhile fun entry => entry.tag.isSome) := by
  induction queue with
  | nil => rfl
  | cons entry queue ih =>
    rw [List.map_cons, QueueEntry.json, pendingLoop, List.takeWhile_cons]
    simp only [bind, Except.bind, pure, Except.pure, getString_text entry.has_source]
    cases tagged : entry.tag with
    | none =>
      have missing : p.json.getString entry.members "tag" = .error .json := by
        rw [OrgJson.getString, OrgJson.get, entry.has_tag, tagged]
        rfl
      rw [missing]
      rfl
    | some tag =>
      have read : p.json.getString entry.members "tag" = .ok tag := by
        apply getString_text
        rw [entry.has_tag, tagged, Option.map_some]
      simp only [read, Option.isSome_some, if_true]
      rw [pendingUrls_cons, ← ih, optLong_timestamp]
      have pending : entry.Pending username messageTag ↔ (messageTag = tag ∨ messageTag = "*") ∧ entry.source = username := by
        rw [QueueEntry.Pending, tagged, Option.getD_some]
        tauto
      by_cases chosen : entry.Pending username messageTag
      · rw [if_pos chosen, if_pos (pending.mp chosen)]
      · rw [if_neg chosen, if_neg fun other => chosen (pending.mpr other)]

theorem deleteContactPendingMessages_deletes (username messageTag : String) (response : Response) :
    (deleteContactPendingMessages p username messageTag response).2 =
      (pendingLoop p username messageTag (queueOf p response)).2 := by
  rw [deleteContactPendingMessages, ← queueOf]
  cases pendingLoop p username messageTag (queueOf p response) with
  | mk ended deletes => cases ended <;> rfl

end Android.SignalClient

namespace Ios.SignalClient

theorem pendingDeletes_queue (username messageTag : String) (queue : List QueueEntry) {dict : Dictionary}
    (decoded : dict.lookup "messages" = some (.arr (queue.map QueueEntry.json))) :
    pendingDeletes username messageTag dict = pendingUrls username messageTag queue := by
  have dictionaries : asDictionaries (.arr (queue.map QueueEntry.json)) = some (queue.map QueueEntry.members) :=
    asDictionaries_map queue _
  rw [pendingDeletes, decoded, Option.bind_some, dictionaries, Option.getD_some]
  clear decoded dictionaries
  induction queue with
  | nil => rfl
  | cons entry queue ih =>
    have pending : entry.Pending username messageTag ↔ username = entry.source ∧
        (messageTag = entry.tag.getD "" ∨ messageTag = "*") := by
      rw [QueueEntry.Pending, eq_comm, @eq_comm _ _ messageTag, or_comm]
    rw [List.map_cons, List.filterMap_cons, pendingUrls_cons, ih]
    dsimp only
    rw [source_eq, tag_eq, timestamp_eq]
    by_cases chosen : entry.Pending username messageTag
    · rw [if_pos chosen, if_pos (pending.mp chosen)]
      rfl
    · rw [if_neg chosen, if_neg fun other => chosen (pending.mpr other)]

end Ios.SignalClient

/-- The pending messages of a contact, for a queue that both platforms are sent: iOS deletes exactly these, and Android
    does if none of them comes with or after an entry without a tag. -/
theorem pending_messages_are_deleted_iff {verify : Verify} (android : Android.Platform) (ios : Ios.Platform)
    (username messageTag self : String) (queue : List QueueEntry) (response : Android.Response)
    (answered : Android.SignalClient.queueOf android response = queue.map QueueEntry.json)
    (answer : Android.Answer verify) (files : Android.Files) (completion : Ios.Completion verify) (dict : Ios.Dictionary)
    (called : Ios.SignalServer.call ios completion.exchange = .success dict)
    (decoded : dict.lookup "messages" = some (.arr (queue.map QueueEntry.json))) (archives : Ios.Archives) :
    ((Ios.Task.pendingMessages username messageTag).react ios self archives completion).started =
      (pendingUrls username messageTag queue).map Ios.Task.delete ∧
    (((Android.Request.pendingMessages username messageTag).answered android response answer files).started =
        Android.deleting (pendingUrls username messageTag queue) ↔
      ∀ entry ∈ fromUntagged queue, ¬ entry.Pending username messageTag) := by
  constructor
  · rw [Ios.Task.react]
    simp only [called, Ios.SignalClient.pendingDeletes_queue username messageTag queue decoded]
  · have started : ((Android.Request.pendingMessages username messageTag).answered android response answer
        files).started = Android.deleting (pendingUrls username messageTag
          (queue.takeWhile fun entry => entry.tag.isSome)) := by
      rw [← @Android.SignalClient.pendingLoop_queue android, ← answered,
        ← Android.SignalClient.deleteContactPendingMessages_deletes]
      rfl
    have different : Function.Injective fun url => Android.Task.timestamp (.delete url false) := by
      intro one other same
      injection same with same
      injection same
    rw [started, ← pendingUrls_takeWhile_iff, Android.deleting, Android.deleting]
    exact (List.map_injective_iff.mpr different).eq_iff

section Queues

def queueEntry (source : String) (timestamp : Fin 1000) (tag : Option String) : QueueEntry where
  members := [("source", .str source), ("timestamp", .num timestamp)] ++ (tag.map fun text => ("tag", Json.str text)).toList
  source
  timestamp
  tag
  has_source := by simp
  has_timestamp := by simp [lookup_cons_ite]
  has_tag := by cases tag <;> simp [lookup_cons_ite]
  bounds := timestamp_bounds timestamp

def bobPending : QueueEntry := queueEntry "bob" 5 (some "chat")

def carolUntagged : QueueEntry := queueEntry "carol" 4 none

def messagesCompletion (queue : List QueueEntry) : Ios.Completion everySignature :=
  { Ios.completedWith 200 "" with
    exchange := .answered 200 (Android.Platform.plain.json.print (.obj (messagesDictionary (queue.map QueueEntry.json)))) }

theorem called_messagesCompletion (queue : List QueueEntry) :
    Ios.SignalServer.call .plain (messagesCompletion queue).exchange =
      .success (messagesDictionary (queue.map QueueEntry.json)) := by
  have parsed := Android.Platform.plain.json.parse_print (.obj (messagesDictionary (queue.map QueueEntry.json)))
  have read : Ios.Platform.plain.jsonObject (Android.Platform.plain.json.print
      (.obj (messagesDictionary (queue.map QueueEntry.json)))) =
        some (.obj (messagesDictionary (queue.map QueueEntry.json))) := by
    rw [Ios.Platform.plain]
    exact congrArg (Option.filter _) parsed
  rw [messagesCompletion, Ios.SignalServer.call]
  simp [read]

theorem untagged_entry_comes_last :
    ((Android.Request.pendingMessages "bob" "chat").answered .plain
        (messagesResponse ([bobPending, carolUntagged].map QueueEntry.json))
        (Android.Method.exchanged .dropped).toAnswer Android.noFiles).started =
      Android.deleting ["/v1/messages/bob/5"] := by
  have deleted := (pending_messages_are_deleted_iff .plain .plain "bob" "chat" "alice" [bobPending, carolUntagged]
    (messagesResponse ([bobPending, carolUntagged].map QueueEntry.json)) (queueOf_messagesResponse _)
    (Android.Method.exchanged .dropped).toAnswer Android.noFiles (messagesCompletion [bobPending, carolUntagged])
    (messagesDictionary ([bobPending, carolUntagged].map QueueEntry.json)) (called_messagesCompletion _) rfl
    Ios.noArchives).2.mpr (by decide)
  exact deleted

theorem untagged_entry_stops_the_deletions :
    let queue := [carolUntagged, bobPending]
    Android.SignalClient.deleteContactPendingMessages .plain "bob" "chat" (messagesResponse (queue.map QueueEntry.json)) =
      (Android.nativeFailed .json, []) ∧
    ((Ios.Task.pendingMessages "bob" "chat").react .plain "alice" Ios.noArchives (messagesCompletion queue)).started =
      [.delete "/v1/messages/bob/5"] := by
  decide +kernel

end Queues
end PillarSignal
