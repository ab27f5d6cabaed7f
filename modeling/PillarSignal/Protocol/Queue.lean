import PillarSignal.Storage.Json

namespace PillarSignal

open Storage

/-- An entry of the server's queue: from a source, with a timestamp of 64 bits, and with or without a tag. Any other
    members may stand beside these. -/
structure QueueEntry where
  members : List (String × Json)
  source : String
  timestamp : Int
  tag : Option String
  has_source : members.lookup "source" = some (.str source)
  has_timestamp : members.lookup "timestamp" = some (.num timestamp)
  has_tag : members.lookup "tag" = tag.map .str
  bounds : -2 ^ 63 ≤ timestamp ∧ timestamp < 2 ^ 63

def QueueEntry.json (entry : QueueEntry) : Json := .obj entry.members

/-- An entry that carries a message of some type. -/
structure QueueMessage extends QueueEntry where
  text : String
  type : Int
  has_text : members.lookup "message" = some (.str text)
  has_type : members.lookup "type" = some (.num type)
  type_bounds : -2 ^ 63 ≤ type ∧ type < 2 ^ 63
  nonnegative : 0 ≤ timestamp

theorem timestamp_bounds (timestamp : Fin 1000) : -2 ^ 63 ≤ (timestamp.val : Int) ∧ (timestamp.val : Int) < 2 ^ 63 := by
  omega

end PillarSignal
