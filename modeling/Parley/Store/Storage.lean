import Parley.Engine.BlockStep
import Parley.Store.Sql

/-!
The store that a bot runs on: records in memory or in a database, with fresh ids, the calendar
clock, and what is currently out of order. Requests that insert a row may meet one that another
writer has inserted in between; they are tried again, and then find it.
-/

namespace Parley

inductive Request where
  | getBot
  | saveBot
  | getSession
  | saveSession
  | listBlocks
  | getBlock
  | saveBlock
  | findFlagged
  | listFlows
  | getFlow
  | saveFlow
  | getContact
  | upsertContact
  | addEntry
  | listEntries
  | bumpCount
  | getCount
  | health
  deriving DecidableEq, Repr

inductive Store where
  | memory (memory : Memory)
  | sql (sql : Sql)

structure Storage where
  store : Store
  source : Source
  broken : List Request := []
  down : Bool := false
  /-- How many of the next look-ups of session rows miss what another writer has not yet shown. -/
  staleSessions : Nat := 0
  staleContacts : Nat := 0

abbrev StoreM := ExceptT Failure (StateM Storage)

namespace Storage

def draw {α : Type} (action : Draw α) : StoreM α := do
  let storage ← get
  let (value, source) := action.run storage.source
  set { storage with source }
  return value

def ofExcept {α : Type} : Except Failure α → StoreM α
  | .ok value => return value
  | .error failure => throw failure

def check (request : Request) : StoreM Unit := do
  if request ∈ (← get).broken then throw .storeDown

def begin : StoreM Unit := do
  if (← get).down then throw .storeDown

def setMemory (memory : Memory) : StoreM Unit := modify ({ · with store := .memory memory })

def setSql (sql : Sql) : StoreM Unit := modify ({ · with store := .sql sql })

/-- Answers a request from memory, or in a transaction of the database. -/
def request {α : Type} (request : Request) (onMemory : Memory → StoreM α) (onSql : Sql → StoreM α) :
    StoreM α := do
  check request
  match (← get).store with
  | .memory memory => onMemory memory
  | .sql sql => do
    begin
    onSql sql

def maxAttempts : Nat := 3

/-- Runs transactions of the database until one meets no taken key, at most `attempts` more after
the first. -/
def retrying {α : Type} (attempt : Sql → StoreM α) : Nat → StoreM α
  | 0 => do
    match (← get).store with
    | .sql sql => attempt sql
    | .memory _ => throw .storeDown
  | attempts + 1 => do
    match (← get).store with
    | .sql sql =>
      tryCatch (attempt sql) fun failure =>
        if failure = .keyTaken then retrying attempt attempts else throw failure
    | .memory _ => throw .storeDown

/-! ### Bots -/

def getBot (botId : String) : StoreM (Option Bot) :=
  request .getBot (fun memory => return memory.bot? botId) (fun sql => return sql.bot? botId)

def saveBot (bot : Bot) : StoreM Unit :=
  request .saveBot (fun memory => setMemory (memory.saveBot bot)) fun sql => do
    if (sql.bot? bot.id).isNone then
      let _ ← draw Source.now
    setSql (sql.saveBot bot)

/-! ### Sessions -/

def lookUpSession (botId senderId : String) (sql : Sql) : StoreM (Option SessionRow) := do
  match (← get).staleSessions with
  | 0 => return sql.sessionRow? botId senderId
  | rest + 1 => do
    modify ({ · with staleSessions := rest })
    return none

def getSession (botId senderId : String) : StoreM (Option Session) :=
  request .getSession (fun memory => return memory.session? botId senderId) fun sql => do
    match ← lookUpSession botId senderId sql with
    | some row => return some (← ofExcept row.toSession)
    | none => return none

/-- Saves a session and answers it with the id under which it is stored. -/
def saveSession (session : Session) : StoreM Session :=
  request .saveSession
    (fun memory => do
      let _ ← draw Source.now
      let (saved, memory) := memory.saveSession session
      setMemory memory
      return saved)
    (fun _ => retrying attempt (maxAttempts - 1))
where
  attempt (sql : Sql) : StoreM Session := do
    let found ← lookUpSession session.botId session.senderId sql
    let _ ← draw Source.now
    let (saved, sql) ← ofExcept (sql.saveSession found session)
    setSql sql
    return saved

/-! ### Blocks and flows -/

def listBlocks (botId : String) (enabledOnly : Bool) : StoreM (List Block) :=
  request .listBlocks (fun memory => return memory.listBlocks botId enabledOnly)
    (fun sql => return sql.listBlocks botId enabledOnly)

def getBlock (botId blockId : String) : StoreM (Option Block) :=
  request .getBlock (fun memory => return memory.block? botId blockId)
    (fun sql => ofExcept (sql.block? botId blockId))

def saveBlock (block : Block) : StoreM Unit :=
  request .saveBlock (fun memory => setMemory (memory.saveBlock block))
    (fun sql => do setSql (← ofExcept (sql.saveBlock block)))

/-- The id of the first block of a bot with a flag, whether its cards are valid or not. -/
def findFlagged (botId flagName : String) : StoreM (Option String) := do
  check .findFlagged
  match (← get).store with
  | .memory memory => ofExcept (memory.flagged? botId flagName)
  | .sql sql =>
    match Sql.rowFlag? flagName with
    | some flag => do
      begin
      return sql.flagged? botId flag
    | none => throw (.unknownFlag flagName)

def listFlows (botId : String) (activeOnly : Bool) : StoreM (List Flow) :=
  request .listFlows (fun memory => return memory.listFlows botId activeOnly)
    (fun sql => return sql.listFlows botId activeOnly)

def getFlow (botId flowId : String) : StoreM (Option Flow) :=
  request .getFlow (fun memory => return memory.flow? botId flowId)
    (fun sql => ofExcept (sql.flow? botId flowId))

def saveFlow (flow : Flow) : StoreM Unit :=
  request .saveFlow (fun memory => setMemory (memory.saveFlow flow))
    (fun sql => do setSql (← ofExcept (sql.saveFlow flow)))

def findBlock (storage : Storage) : FindBlock := fun botId blockId =>
  ((getBlock botId blockId).run storage).1

/-! ### Contacts -/

def lookUpContact (botId senderId : String) (sql : Sql) : StoreM (Option Contact) := do
  match (← get).staleContacts with
  | 0 => return sql.contact? botId senderId
  | rest + 1 => do
    modify ({ · with staleContacts := rest })
    return none

def getContact (botId senderId : String) : StoreM (Option Contact) :=
  request .getContact (fun memory => return memory.contact? botId senderId)
    (lookUpContact botId senderId)

structure Profile where
  name : Option String := none
  picture : Option String := none
  platform : String := "facebook"
  deriving DecidableEq, Repr

def newContact (botId senderId : String) (profile : Profile) : StoreM Contact := do
  let id ← draw Source.freshId
  let firstSeenAt ← draw Source.now
  let lastSeenAt ← draw Source.now
  return { id, botId, senderId, name := profile.name, profilePic := profile.picture,
           platform := profile.platform, messageCount := 1, firstSeenAt, lastSeenAt }

def visit (profile : Profile) (contact : Contact) : StoreM Contact := do
  return contact.visit (← draw Source.now) profile.name profile.picture

/-- Counts a message of a sender, who becomes a contact with the first one. -/
def upsertContact (botId senderId : String) (profile : Profile) : StoreM Contact :=
  request .upsertContact
    (fun memory => do
      let contact ← match memory.contact? botId senderId with
        | some contact => visit profile contact
        | none => newContact botId senderId profile
      setMemory (memory.saveContact contact)
      return contact)
    (fun _ => retrying attempt (maxAttempts - 1))
where
  attempt (sql : Sql) : StoreM Contact := do
    match ← lookUpContact botId senderId sql with
    | some contact => do
      let contact ← visit profile contact
      setSql (sql.updateContact contact)
      return contact
    | none => do
      let contact ← newContact botId senderId profile
      setSql (← ofExcept (sql.insertContact contact))
      return contact

/-! ### Messages and counters -/

def addEntry (entry : LogEntry) : StoreM Unit :=
  request .addEntry (fun memory => setMemory (memory.addEntry entry)) fun sql => do
    setSql (← ofExcept (sql.addEntry entry))

def listEntries (botId : String) (senderId : Option String) (limit : Option Int) :
    StoreM (List LogEntry) :=
  request .listEntries (fun memory => return memory.listEntries botId senderId limit)
    (fun sql => return sql.listEntries botId senderId limit)

def getCount (botId : String) (day : Day) : StoreM (Option DailyCount) :=
  request .getCount (fun memory => return memory.count? botId day)
    (fun sql => return sql.count? botId day)

def bumpCount (botId : String) (day : Day) (direction : Direction) (newUser : Bool) :
    StoreM (Option DailyCount) :=
  request .bumpCount
    (fun memory => do
      let (count, memory) := memory.bumpCount botId day direction newUser
      setMemory memory
      return some count)
    (fun _ => do
      retrying attempt (maxAttempts - 1)
      getCount botId day)
where
  attempt (sql : Sql) : StoreM Unit := do
    match sql.addToCount botId day direction newUser with
    | (true, sql) => setSql sql
    | (false, sql) => do
      let _ ← draw Source.freshId
      setSql (← ofExcept (sql.insertCount botId day direction newUser))

/-! ### State -/

def health : StoreM Bool := do
  check .health
  match (← get).store with
  | .memory _ => return true
  | .sql _ => return !(← get).down

end Storage

end Parley
