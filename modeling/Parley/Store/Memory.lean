import Parley.Failure
import Parley.Source
import Parley.Store.Table

/-!
The store that keeps all records in memory. Records are listed in the order in which they were
first saved; saving a record again leaves it in its place.
-/

namespace Parley

structure Memory where
  bots : List Bot := []
  sessions : List Session := []
  blocks : List Block := []
  flows : List Flow := []
  contacts : List Contact := []
  entries : List LogEntry := []
  counts : List DailyCount := []
  deriving DecidableEq, Repr

def Session.isOf (botId senderId : String) (session : Session) : Bool :=
  session.botId = botId && session.senderId = senderId

def Contact.isOf (botId senderId : String) (contact : Contact) : Bool :=
  contact.botId = botId && contact.senderId = senderId

def LogEntry.isOf (botId : String) (senderId : Option String) (entry : LogEntry) : Bool :=
  entry.botId = botId && senderId.all (entry.senderId = ·)

def DailyCount.isOf (botId : String) (day : Day) (count : DailyCount) : Bool :=
  count.botId = botId && count.day = day

/-- What is known of a block, by name, and whether a block has it. A text or a list is there unless
it is empty; what is known of all blocks alike is there or not for all. -/
def Block.flag? (name : String) : Option (Block → Bool) :=
  match name with
  | "is_welcome" => some (·.isWelcome)
  | "is_default_answer" => some (·.isDefaultAnswer)
  | "is_enabled" => some (·.isEnabled)
  | "id" => some (·.id ≠ "")
  | "bot_id" => some (·.botId ≠ "")
  | "name" => some (·.name ≠ "")
  | "group_name" => some fun block => block.groupName.getD "" ≠ ""
  | "cards" => some fun block => !block.cards.isEmpty
  | "triggers" => some fun block => !block.triggers.isEmpty
  | "created_at" | "model_config" | "model_fields" | "model_fields_set" => some fun _ => true
  | "model_extra" | "model_computed_fields" => some fun _ => false
  | _ => none

namespace Memory

def bot? (botId : String) (memory : Memory) : Option Bot := memory.bots.find? (·.id = botId)

def saveBot (bot : Bot) (memory : Memory) : Memory :=
  { memory with bots := Table.put (·.id = bot.id) bot memory.bots }

def session? (botId senderId : String) (memory : Memory) : Option Session :=
  memory.sessions.find? (·.isOf botId senderId)

/-- Saves a session. The session of a sender keeps the id with which it was first saved. -/
def saveSession (session : Session) (memory : Memory) : Session × Memory :=
  let id := ((memory.session? session.botId session.senderId).map (·.id)).getD session.id
  let saved := { session with id }
  (saved, { memory with
    sessions := Table.put (·.isOf session.botId session.senderId) saved memory.sessions })

def listBlocks (botId : String) (enabledOnly : Bool) (memory : Memory) : List Block :=
  memory.blocks.filter fun block => block.botId = botId && (block.isEnabled || !enabledOnly)

def block? (botId blockId : String) (memory : Memory) : Option Block :=
  (memory.blocks.find? (·.id = blockId)).filter (·.botId = botId)

def saveBlock (block : Block) (memory : Memory) : Memory :=
  { memory with blocks := Table.put (·.id = block.id) block memory.blocks }

/-- The first block of a bot with a flag. A name that is no flag is noticed when there is a block
to look at. -/
def flagged? (botId flagName : String) (memory : Memory) : Except Failure (Option String) :=
  match Block.flag? flagName with
  | some flag =>
    .ok ((memory.blocks.find? fun block => block.botId = botId && flag block).map (·.id))
  | none => if memory.blocks.any (·.botId = botId) then .error (.unknownFlag flagName) else .ok none

def listFlows (botId : String) (activeOnly : Bool) (memory : Memory) : List Flow :=
  memory.flows.filter fun flow => flow.botId = botId && (flow.isActive || !activeOnly)

def flow? (botId flowId : String) (memory : Memory) : Option Flow :=
  (memory.flows.find? (·.id = flowId)).filter (·.botId = botId)

def saveFlow (flow : Flow) (memory : Memory) : Memory :=
  { memory with flows := Table.put (·.id = flow.id) flow memory.flows }

def contact? (botId senderId : String) (memory : Memory) : Option Contact :=
  memory.contacts.find? (·.isOf botId senderId)

def saveContact (contact : Contact) (memory : Memory) : Memory :=
  { memory with
    contacts := Table.put (·.isOf contact.botId contact.senderId) contact memory.contacts }

def addEntry (entry : LogEntry) (memory : Memory) : Memory :=
  { memory with entries := memory.entries ++ [entry] }

/-- The latest entries, oldest first; no limit takes all. -/
def listEntries (botId : String) (senderId : Option String) (limit : Option Int) (memory : Memory) :
    List LogEntry :=
  Table.tail (limit.getD 0) (memory.entries.filter (·.isOf botId senderId))

def count? (botId : String) (day : Day) (memory : Memory) : Option DailyCount :=
  memory.counts.find? (·.isOf botId day)

def bumpCount (botId : String) (day : Day) (direction : Direction) (newUser : Bool)
    (memory : Memory) : DailyCount × Memory :=
  let count := ((memory.count? botId day).getD { botId, day }).bump direction newUser
  (count, { memory with counts := Table.put (·.isOf botId day) count memory.counts })

end Memory

end Parley
