import Parley.Store.Storage

/-!
Rows written past the engine, column by column and without a check of their JSON. A row with the
same id is changed in the columns that are given; a new one takes defaults for the others.
-/

namespace Parley

open Schema

/-- Columns are filled one after the other; what does not go in is noted in this order. -/
abbrev Filling := StateM (List ColumnFault)

namespace Columns

variable {α : Type}

def note (fault : ColumnFault) (old : α) : Filling α := do
  modify (· ++ [fault])
  return old

def free (columns : Fields) (name : String) (read : Json → Except ColumnFault (Option α))
    (old : Option α) : Filling (Option α) :=
  match (Json.lookup name columns).map read with
  | none => return old
  | some (.ok value) => return value
  | some (.error fault) => note fault old

def filled (columns : Fields) (name : String) (read : Json → Except ColumnFault (Option α))
    (old : α) : Filling α := do
  match ← free columns name read (some old) with
  | some value => return value
  | none => note .empty old

/-- A column that must not be empty, in which a new row has its default instead. -/
def column (isNew : Bool) (columns : Fields) (name : String)
    (read : Json → Except ColumnFault (Option α)) (old : α) : Filling α :=
  match Json.lookup name columns, isNew with
  | some .null, true => return old
  | _, _ => filled columns name read old

/-- A time is never written past the engine. -/
def noTime : Json → Except ColumnFault (Option Unit)
  | .null => .ok none
  | _ => .error .unfit

def json (columns : Fields) (name : String) (old : Json) : Json :=
  (Json.lookup name columns).getD old

/-- Of the faults of a row, the one that is reported: all values are prepared for their columns, then
handed over, and then stored. -/
def first? (faults : List ColumnFault) : Option ColumnFault :=
  (faults.find? (· = .unfit)).or ((faults.find? (· ≠ .empty)).or faults.head?)

def run (row : Filling α) : Except ColumnFault α :=
  let (row, faults) := Id.run (StateT.run row [])
  match first? faults with
  | some fault => .error fault
  | none => .ok row

def checkNames (known : List String) (columns : Fields) : Except ColumnFault Unit :=
  if columns.all fun (name, _) => known.contains name then .ok () else .error .unknown

def id? (columns : Fields) : Except ColumnFault (Option String) :=
  match Json.lookup "id" columns with
  | some (.arr _) => .error .unknown
  | some (.obj _) => .error .unknown
  | some given => Cell.textOfJson given
  | none => .ok none

end Columns

open Columns

namespace BlockRow

def columnNames : List String :=
  ["id", "seq", "bot_id", "name", "group_name", "cards", "triggers", "is_welcome",
    "is_default_answer", "is_enabled", "created_at"]

def merge (isNew : Bool) (columns : Fields) (row : BlockRow) : Filling BlockRow := do
  let seq ← column isNew columns "seq" Cell.ofJson row.seq
  let botId ← filled columns "bot_id" Cell.textOfJson row.botId
  let name ← column isNew columns "name" Cell.textOfJson row.name
  let groupName ← free columns "group_name" Cell.textOfJson row.groupName
  let isWelcome ← column isNew columns "is_welcome" Cell.boolOfJson row.isWelcome
  let isDefaultAnswer ←
    column isNew columns "is_default_answer" Cell.boolOfJson row.isDefaultAnswer
  let isEnabled ← column isNew columns "is_enabled" Cell.boolOfJson row.isEnabled
  column isNew columns "created_at" noTime ()
  return { row with
    seq, botId, name, groupName, isWelcome, isDefaultAnswer, isEnabled
    cards := json columns "cards" row.cards
    triggers := json columns "triggers" row.triggers }

end BlockRow

namespace FlowRow

def columnNames : List String :=
  ["id", "seq", "bot_id", "name", "nodes", "edges", "triggers", "is_default", "is_active",
    "created_at"]

def merge (isNew : Bool) (columns : Fields) (row : FlowRow) : Filling FlowRow := do
  let seq ← column isNew columns "seq" Cell.ofJson row.seq
  let botId ← filled columns "bot_id" Cell.textOfJson row.botId
  let name ← column isNew columns "name" Cell.textOfJson row.name
  let isDefault ← column isNew columns "is_default" Cell.boolOfJson row.isDefault
  let isActive ← column isNew columns "is_active" Cell.boolOfJson row.isActive
  column isNew columns "created_at" noTime ()
  return { row with
    seq, botId, name, isDefault, isActive
    nodes := json columns "nodes" row.nodes
    edges := json columns "edges" row.edges
    triggers := json columns "triggers" row.triggers }

end FlowRow

namespace SessionRow

def columnNames : List String :=
  ["id", "bot_id", "sender_id", "current_block_id", "current_card_index", "current_node_id",
    "current_flow_id", "context", "created_at", "updated_at"]

def merge (isNew : Bool) (columns : Fields) (row : SessionRow) : Filling SessionRow := do
  let botId ← filled columns "bot_id" Cell.textOfJson row.botId
  let senderId ← filled columns "sender_id" Cell.textOfJson row.senderId
  let currentBlockId ← free columns "current_block_id" Cell.textOfJson row.currentBlockId
  let currentCardIndex ← column isNew columns "current_card_index" Cell.ofJson row.currentCardIndex
  let currentNodeId ← free columns "current_node_id" Cell.textOfJson row.currentNodeId
  let currentFlowId ← free columns "current_flow_id" Cell.textOfJson row.currentFlowId
  column isNew columns "created_at" noTime ()
  column isNew columns "updated_at" noTime ()
  return { row with
    botId, senderId, currentBlockId, currentCardIndex, currentNodeId, currentFlowId
    context := json columns "context" row.context }

end SessionRow

namespace Storage

def ofColumn {α : Type} : Except ColumnFault α → StoreM α
  | .ok value => return value
  | .error fault => throw (.column fault)

/-- Runs a transaction of the database on the row with the given id, or with a fresh one; a store in
memory has no rows. -/
def withRow (known : List String) (columns : Fields) (write : String → Sql → StoreM Sql) :
    StoreM Unit := do
  match (← get).store with
  | .memory _ => return ()
  | .sql sql => do
    ofColumn (checkNames known columns)
    begin
    let id ← match ← ofColumn (id? columns) with
      | some id => pure id
      | none => draw Source.freshId
    setSql (← write id sql)

def mergeBlockRow (columns : Fields) : StoreM Unit :=
  withRow BlockRow.columnNames columns fun id sql => do
    match sql.blocks.find? (·.id = id) with
    | some row => do
      let row ← ofColumn (run (row.merge false columns))
      return { sql with blocks := Table.put (·.id = id) row sql.blocks }
    | none => do
      let row : BlockRow := { id, botId := "", createdAt := ← draw Source.now }
      return { sql with blocks := sql.blocks ++ [← ofColumn (run (row.merge true columns))] }

def mergeFlowRow (columns : Fields) : StoreM Unit :=
  withRow FlowRow.columnNames columns fun id sql => do
    match sql.flows.find? (·.id = id) with
    | some row => do
      let row ← ofColumn (run (row.merge false columns))
      return { sql with flows := Table.put (·.id = id) row sql.flows }
    | none => do
      let row : FlowRow := { id, botId := "", createdAt := ← draw Source.now }
      return { sql with flows := sql.flows ++ [← ofColumn (run (row.merge true columns))] }

def senderFree (row : SessionRow) (sql : Sql) : Bool :=
  sql.sessions.all fun other => other.id = row.id || !other.isOf row.botId row.senderId

def mergeSessionRow (columns : Fields) : StoreM Unit :=
  withRow SessionRow.columnNames columns fun id sql => do
    let _ ← draw Source.now
    let old := sql.sessions.find? (·.id = id)
    let row : SessionRow := old.getD { id, botId := "", senderId := "" }
    let row ← ofColumn (run (row.merge old.isNone columns))
    if !senderFree row sql then throw .keyTaken
    if old.isNone then
      let _ ← draw Source.now
    return { sql with sessions := Table.put (·.id = id) row sql.sessions }

end Storage

end Parley
