import Parley.Schema.Reader

/-!
The message log and the daily counters kept beside it.
-/

namespace Parley

open Schema

inductive Direction where
  | incoming
  | outgoing
  deriving DecidableEq, Repr

namespace Direction

def name : Direction → String
  | .incoming => "incoming"
  | .outgoing => "outgoing"

def ofName? : String → Option Direction
  | "incoming" => some .incoming
  | "outgoing" => some .outgoing
  | _ => none

/-- Reads a direction; a text that names none and a value of another type are the same fault. -/
def read (value : Json) : Checked Direction :=
  match value with
  | .str text =>
    match ofName? text with
    | some direction => .valid direction
    | none => .fail .unknownMember
  | _ => .fail .unknownMember

end Direction

structure LogEntry where
  id : String
  botId : String
  senderId : String
  content : String
  direction : Direction
  messageType : String := "text"
  timestamp : Timestamp
  deriving DecidableEq, Repr

namespace LogEntry

def read (freshId : String) (now : Timestamp) : Json → Checked LogEntry :=
  record fun fields =>
    LogEntry.mk <$> withDefault (key "id") freshId readText fields <*>
      required (key "bot_id") readText fields <*> required (key "sender_id") readText fields <*>
      required (key "content") readText fields <*> required (key "direction") Direction.read fields <*>
      withDefault (key "message_type") "text" readText fields <*>
      withDefault (key "timestamp") now readTimestamp fields

def toJson (timeText : Timestamp → String) (entry : LogEntry) : Json :=
  .obj [("id", .str entry.id), ("bot_id", .str entry.botId), ("sender_id", .str entry.senderId),
    ("content", .str entry.content), ("direction", .str entry.direction.name),
    ("message_type", .str entry.messageType), ("timestamp", .str (timeText entry.timestamp))]

end LogEntry

structure DailyCount where
  botId : String
  day : Day
  total : Int := 0
  incoming : Int := 0
  outgoing : Int := 0
  uniqueUsers : Int := 0
  deriving DecidableEq, Repr

namespace DailyCount

def read : Json → Checked DailyCount :=
  record fun fields =>
    DailyCount.mk <$> required (key "bot_id") readText fields <*>
      required (key "date") readDay fields <*>
      withDefault (key "total_messages") 0 readInt fields <*>
      withDefault (key "incoming_messages") 0 readInt fields <*>
      withDefault (key "outgoing_messages") 0 readInt fields <*>
      withDefault (key "unique_users") 0 readInt fields

def toJson (count : DailyCount) : Json :=
  .obj [("bot_id", .str count.botId), ("date", .str count.day.print),
    ("total_messages", .int count.total), ("incoming_messages", .int count.incoming),
    ("outgoing_messages", .int count.outgoing), ("unique_users", .int count.uniqueUsers)]

def bump (direction : Direction) (newUser : Bool) (count : DailyCount) : DailyCount :=
  { count with
    total := count.total + 1
    incoming := count.incoming + if direction = .incoming then 1 else 0
    outgoing := count.outgoing + if direction = .incoming then 0 else 1
    uniqueUsers := count.uniqueUsers + if newUser then 1 else 0 }

end DailyCount

end Parley
