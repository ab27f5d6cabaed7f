import PillarSignal.Protocol.Queue
import PillarSignal.Properties.QueueEntries
import PillarSignal.Ios.Receive

namespace PillarSignal

open Storage

namespace Android

variable {p : Platform}

theorem getString_eq {object : JSONObject} {name : String} {value : Json} (found : object.lookup name = some value) :
    p.json.getString object name = .ok (p.json.toText value) := by
  rw [OrgJson.getString, OrgJson.get, found]
  rfl

theorem getString_text {object : JSONObject} {name text : String} (found : object.lookup name = some (.str text)) :
    p.json.getString object name = .ok text := getString_eq found

theorem optString_tag (entry : QueueEntry) : p.json.optString entry.members "tag" = entry.tag.getD "" := by
  rw [OrgJson.optString, entry.has_tag]
  cases entry.tag <;> rfl

theorem optLong_timestamp (entry : QueueEntry) : p.json.optLong entry.members "timestamp" 0 = entry.timestamp := by
  rw [OrgJson.optLong_num entry.has_timestamp, toLong_of_small entry.bounds.1 entry.bounds.2]

end Android

namespace Ios

open MessageDTO

theorem tag_eq (entry : QueueEntry) : tag ⟨entry.members⟩ = entry.tag.getD "" := by
  rw [tag, text, entry.has_tag]
  cases entry.tag <;> rfl

theorem source_eq (entry : QueueEntry) : source ⟨entry.members⟩ = entry.source := by
  rw [source, text, entry.has_source]
  rfl

theorem asInt_num {value : Int} (bounds : -2 ^ 63 ≤ value ∧ value < 2 ^ 63) : asInt (.num value) = some value := by
  rw [asInt, integerValue, Option.filter_some, if_pos (decide_eq_true bounds)]

theorem timestamp_eq (entry : QueueEntry) : timestamp ⟨entry.members⟩ = entry.timestamp := by
  rw [timestamp, entry.has_timestamp, Option.bind_some, asInt_num entry.bounds, Option.getD_some]

theorem asDictionaries_map {ι : Type} (items : List ι) (members : ι → Dictionary) :
    asDictionaries (.arr (items.map fun item => .obj (members item))) = some (items.map members) := by
  rw [asDictionaries, List.mapM_map]
  induction items with
  | nil => rfl
  | cons item items ih =>
    rw [List.mapM_cons, ih]
    rfl

end Ios
def messagesDictionary (queue : List Json) : List (String × Json) := [("messages", .arr queue)]

def messagesResponse (queue : List Json) : Android.Response :=
  ⟨200, some (Android.Platform.plain.json.print (.obj (messagesDictionary queue)))⟩

theorem queueOf_messagesResponse (queue : List Json) :
    Android.SignalClient.queueOf .plain (messagesResponse queue) = queue := by
  have parsed := Android.Platform.plain.json.parse_print (.obj (messagesDictionary queue))
  have valid : Android.ServerResponse.isValidResponseCode 200 = true := by decide
  rw [Android.SignalClient.queueOf, Android.ServerResponse.getResponseJSONObject, messagesResponse]
  simp only [valid, if_true, Android.OrgJson.newJSONObject, parsed]
  rfl

end PillarSignal
