import Parley.Store.Memory

/-!
The store that keeps records as rows of a database. Cards, triggers, nodes, edges and variables are
kept as JSON that anyone may have written, and a column of numbers may hold any cell; they are
checked when they are read. Rows stand in the order in which they were inserted.
-/

namespace Parley

open Schema

structure BlockRow where
  id : String
  seq : Cell := .int 0
  botId : String
  name : String := ""
  groupName : Option String := none
  cards : Json := .arr []
  triggers : Json := .arr []
  isWelcome : Bool := false
  isDefaultAnswer : Bool := false
  isEnabled : Bool := true
  createdAt : Timestamp

structure FlowRow where
  id : String
  seq : Cell := .int 0
  botId : String
  name : String := ""
  nodes : Json := .arr []
  edges : Json := .arr []
  triggers : Json := .arr []
  isDefault : Bool := false
  isActive : Bool := true
  createdAt : Timestamp

structure SessionRow where
  id : String
  botId : String
  senderId : String
  currentBlockId : Option String := none
  currentCardIndex : Cell := .int 0
  currentNodeId : Option String := none
  currentFlowId : Option String := none
  context : Json := .obj []

structure Sql where
  bots : List Bot := []
  sessions : List SessionRow := []
  blocks : List BlockRow := []
  flows : List FlowRow := []
  contacts : List Contact := []
  entries : List LogEntry := []
  counts : List DailyCount := []

/-! ### Rows and records -/

namespace BlockRow

def check (row : BlockRow) : Checked Block :=
  (fun cards triggers =>
      { id := row.id, botId := row.botId, name := row.name, groupName := row.groupName, cards,
        triggers, isWelcome := row.isWelcome, isDefaultAnswer := row.isDefaultAnswer,
        isEnabled := row.isEnabled, createdAt := row.createdAt }) <$>
    readAuthoredList Card.read row.cards <*> readAuthoredList readText row.triggers

def toBlock (row : BlockRow) : Except Failure Block :=
  match row.check with
  | .valid block => .ok block
  | .invalid _ => .error (.invalidContent .block row.id row.botId)

/-- A row with the content of a block; place, owner and time of creation stay. -/
def write (block : Block) (row : BlockRow) : BlockRow :=
  { row with
    name := block.name
    groupName := block.groupName
    cards := .arr (block.cards.map (·.toJson .authored))
    triggers := .arr (block.triggers.map .str)
    isWelcome := block.isWelcome
    isDefaultAnswer := block.isDefaultAnswer
    isEnabled := block.isEnabled }

/-- Rows are scanned by their number, then by their time of creation. -/
def before (row other : BlockRow) : Bool :=
  Cell.before row.seq other.seq (row.createdAt.micros ≤ other.createdAt.micros)

end BlockRow

namespace FlowRow

def check (row : FlowRow) : Checked Flow :=
  (fun nodes edges triggers =>
      { id := row.id, botId := row.botId, name := row.name, nodes, edges, triggers,
        isDefault := row.isDefault, isActive := row.isActive, createdAt := row.createdAt }) <$>
    readAuthoredList Node.read row.nodes <*> readAuthoredList Edge.read row.edges <*>
    readAuthoredList readText row.triggers

def toFlow (row : FlowRow) : Except Failure Flow :=
  match row.check with
  | .valid flow => .ok flow
  | .invalid _ => .error (.invalidContent .flow row.id row.botId)

def write (flow : Flow) (row : FlowRow) : FlowRow :=
  { row with
    name := flow.name
    nodes := .arr (flow.nodes.map (·.toJson .authored))
    edges := .arr (flow.edges.map (·.toJson .authored))
    triggers := .arr (flow.triggers.map .str)
    isDefault := flow.isDefault
    isActive := flow.isActive }

def before (row other : FlowRow) : Bool :=
  Cell.before row.seq other.seq (row.createdAt.micros ≤ other.createdAt.micros)

end FlowRow

namespace SessionRow

def isOf (botId senderId : String) (row : SessionRow) : Bool :=
  row.botId = botId && row.senderId = senderId

def presentOr (default value : Json) : Json := if value.isPresent then value else default

/-- The record that a row holds, if its cells are valid. What is empty stands for the first card and
for no variables. -/
def check (row : SessionRow) : Checked Session :=
  (fun index context =>
      { id := row.id, botId := row.botId, senderId := row.senderId,
        currentBlockId := row.currentBlockId, currentCardIndex := index,
        currentNodeId := row.currentNodeId, currentFlowId := row.currentFlowId, context }) <$>
    readInt (presentOr (.int 0) row.currentCardIndex.toJson) <*>
    readDictionary (presentOr (.obj []) row.context)

def toSession (row : SessionRow) : Except Failure Session :=
  match row.check with
  | .valid session => .ok session
  | .invalid _ => .error (.invalidSession row.id row.botId row.senderId)

def write (session : Session) (row : SessionRow) : SessionRow :=
  { row with
    currentBlockId := session.currentBlockId
    currentCardIndex := .int session.currentCardIndex
    currentNodeId := session.currentNodeId
    currentFlowId := session.currentFlowId
    context := Session.contextJson session.context }

end SessionRow

def validOnly {α : Type} (outcomes : List (Except Failure α)) : List α :=
  outcomes.filterMap Except.toOption

namespace Sql

def bot? (botId : String) (sql : Sql) : Option Bot := sql.bots.find? (·.id = botId)

def saveBot (bot : Bot) (sql : Sql) : Sql :=
  { sql with bots := Table.put (·.id = bot.id) bot sql.bots }

/-! ### Sessions -/

def sessionRow? (botId senderId : String) (sql : Sql) : Option SessionRow :=
  sql.sessions.find? (·.isOf botId senderId)

/-- One attempt to save a session, which has looked its row up before. Inserting a row fails when
its id or its sender has one already, and any row when the number of the card is too large. -/
def saveSession (found : Option SessionRow) (session : Session) (sql : Sql) :
    Except Failure (Session × Sql) :=
  if Cell.isLong session.currentCardIndex then .error (.column .tooLarge)
  else match found with
  | some row =>
    let change := SessionRow.write session
    .ok ({ session with id := row.id },
      { sql with sessions := Table.update (·.id = row.id) change sql.sessions })
  | none =>
    let taken := sql.sessions.any fun row =>
      row.id = session.id || row.isOf session.botId session.senderId
    if taken then .error .keyTaken
    else
      let row : SessionRow :=
        { id := session.id, botId := session.botId, senderId := session.senderId }
      .ok (session, { sql with sessions := sql.sessions ++ [row.write session] })

/-! ### Blocks -/

/-- The number of the next row of a bot: one more than its greatest, which counts from zero. -/
def nextSeq (seqs : List Cell) : Except Failure Cell :=
  match (((Cell.greatest? seqs).getD (.int 0)).toJson).cut with
  | .ok last => if Cell.isLong (last + 1) then .error (.column .tooLarge) else .ok (.int (last + 1))
  | .error fault => .error (.notWhole fault)

def blockRow? (botId blockId : String) (sql : Sql) : Option BlockRow :=
  (sql.blocks.find? (·.id = blockId)).filter (·.botId = botId)

def blockRows (botId : String) (sql : Sql) : List BlockRow :=
  (sql.blocks.filter (·.botId = botId)).mergeSort BlockRow.before

/-- Rows that are not valid are passed over. -/
def listBlocks (botId : String) (enabledOnly : Bool) (sql : Sql) : List Block :=
  validOnly (((sql.blockRows botId).filter fun row => row.isEnabled || !enabledOnly).map (·.toBlock))

def block? (botId blockId : String) (sql : Sql) : Except Failure (Option Block) :=
  match sql.blockRow? botId blockId with
  | some row => row.toBlock.map some
  | none => .ok none

/-- Saves a block: into the row with its id, whoever owns that, or into a new last row. -/
def saveBlock (block : Block) (sql : Sql) : Except Failure Sql := do
  if sql.blocks.any (·.id = block.id) then
    return { sql with blocks := Table.update (·.id = block.id) (BlockRow.write block) sql.blocks }
  else
    let seq ← nextSeq ((sql.blocks.filter (·.botId = block.botId)).map (·.seq))
    let row : BlockRow :=
      { id := block.id, seq, botId := block.botId, createdAt := block.createdAt }
    return { sql with blocks := sql.blocks ++ [row.write block] }

def isOne : Json → Bool
  | .int n => n = 1
  | .float x => x == 1
  | _ => false

/-- The columns of blocks, and whether each is set. A column of truth values is set if it is true;
another one if it holds the number one, which a time never is. -/
def rowFlag? (name : String) : Option (BlockRow → Bool) :=
  match name with
  | "is_welcome" => some (·.isWelcome)
  | "is_default_answer" => some (·.isDefaultAnswer)
  | "is_enabled" => some (·.isEnabled)
  | "seq" => some fun row => Cell.eq row.seq (.int 1)
  | "id" => some (·.id = "1")
  | "bot_id" => some (·.botId = "1")
  | "name" => some (·.name = "1")
  | "group_name" => some (·.groupName = some "1")
  | "cards" => some fun row => isOne row.cards
  | "triggers" => some fun row => isOne row.triggers
  | "created_at" => some fun _ => false
  | _ => none

/-- The first row of a bot with a flag, valid or not. -/
def flagged? (botId : String) (flag : BlockRow → Bool) (sql : Sql) : Option String :=
  ((sql.blockRows botId).find? flag).map (·.id)

/-! ### Flows -/

def flowRow? (botId flowId : String) (sql : Sql) : Option FlowRow :=
  (sql.flows.find? (·.id = flowId)).filter (·.botId = botId)

def flowRows (botId : String) (sql : Sql) : List FlowRow :=
  (sql.flows.filter (·.botId = botId)).mergeSort FlowRow.before

def listFlows (botId : String) (activeOnly : Bool) (sql : Sql) : List Flow :=
  validOnly (((sql.flowRows botId).filter fun row => row.isActive || !activeOnly).map (·.toFlow))

def flow? (botId flowId : String) (sql : Sql) : Except Failure (Option Flow) :=
  match sql.flowRow? botId flowId with
  | some row => row.toFlow.map some
  | none => .ok none

def saveFlow (flow : Flow) (sql : Sql) : Except Failure Sql := do
  if sql.flows.any (·.id = flow.id) then
    return { sql with flows := Table.update (·.id = flow.id) (FlowRow.write flow) sql.flows }
  else
    let seq ← nextSeq ((sql.flows.filter (·.botId = flow.botId)).map (·.seq))
    let row : FlowRow := { id := flow.id, seq, botId := flow.botId, createdAt := flow.createdAt }
    return { sql with flows := sql.flows ++ [row.write flow] }

/-! ### Contacts -/

def contact? (botId senderId : String) (sql : Sql) : Option Contact :=
  sql.contacts.find? (·.isOf botId senderId)

def insertContact (contact : Contact) (sql : Sql) : Except Failure Sql :=
  if sql.contacts.any (·.isOf contact.botId contact.senderId) then .error .keyTaken
  else .ok { sql with contacts := sql.contacts ++ [contact] }

def updateContact (contact : Contact) (sql : Sql) : Sql :=
  { sql with
    contacts := Table.update (·.isOf contact.botId contact.senderId) (fun _ => contact) sql.contacts }

/-! ### Messages and counters -/

def addEntry (entry : LogEntry) (sql : Sql) : Except Failure Sql :=
  if sql.entries.any (·.id = entry.id) then .error .keyTaken
  else .ok { sql with entries := sql.entries ++ [entry] }

/-- The latest entries, oldest first; no limit and a negative one take all. Of entries with one
time, the sender who comes last in the order of texts stands first, and of one sender the entry that
was added last. -/
def listEntries (botId : String) (senderId : Option String) (limit : Option Int) (sql : Sql) :
    List LogEntry :=
  let bySender := (sql.entries.filter (·.isOf botId senderId)).mergeSort fun entry other =>
    entry.senderId ≤ other.senderId
  let newestFirst := bySender.mergeSort fun entry other =>
    other.timestamp.micros ≤ entry.timestamp.micros
  (match limit with
    | some n => if n < 0 then newestFirst else newestFirst.take n.toNat
    | none => newestFirst).reverse

def count? (botId : String) (day : Day) (sql : Sql) : Option DailyCount :=
  sql.counts.find? (·.isOf botId day)

/-- Adds to the counters of a day; says whether there is a row to add to. -/
def addToCount (botId : String) (day : Day) (direction : Direction) (newUser : Bool) (sql : Sql) :
    Bool × Sql :=
  (sql.counts.any (·.isOf botId day),
    { sql with counts := Table.update (·.isOf botId day) (·.bump direction newUser) sql.counts })

def insertCount (botId : String) (day : Day) (direction : Direction) (newUser : Bool) (sql : Sql) :
    Except Failure Sql :=
  if sql.counts.any (·.isOf botId day) then .error .keyTaken
  else
    let count := DailyCount.bump direction newUser { botId, day }
    .ok { sql with counts := sql.counts ++ [count] }

end Sql

end Parley
