import Parley.Proofs.Storage.Footprints
import Parley.Proofs.Storage.Tables

/-!
What a store can be asked, and how the two kinds of stores answer when nothing disturbs them.
-/

namespace Parley

open Storage (Profile)

inductive BlockFlag where
  | welcome
  | defaultAnswer
  deriving DecidableEq, Repr

def BlockFlag.name : BlockFlag → String
  | .welcome => "is_welcome"
  | .defaultAnswer => "is_default_answer"

inductive Operation where
  | saveBot (bot : Bot)
  | getBot (botId : String)
  | saveSession (session : Session)
  | getSession (botId senderId : String)
  | saveBlock (block : Block)
  | getBlock (botId blockId : String)
  | listBlocks (botId : String) (enabledOnly : Bool)
  | findFlagged (botId : String) (flag : BlockFlag)
  | saveFlow (flow : Flow)
  | getFlow (botId flowId : String)
  | listFlows (botId : String) (activeOnly : Bool)
  | upsertContact (botId senderId : String) (profile : Profile)
  | getContact (botId senderId : String)
  | addEntry (entry : LogEntry)
  | listEntries (botId : String) (senderId : Option String) (limit : Int)
  | bumpCount (botId : String) (day : Day) (direction : Direction) (newUser : Bool)
  | getCount (botId : String) (day : Day)

inductive StoreAnswer where
  | done
  | bot (found : Option Bot)
  | session (found : Option Session)
  | block (found : Option Block)
  | blocks (listed : List Block)
  | blockId (found : Option String)
  | flow (found : Option Flow)
  | flows (listed : List Flow)
  | contact (found : Option Contact)
  | entries (listed : List LogEntry)
  | count (found : Option DailyCount)
  deriving DecidableEq, Repr

namespace Operation

def ask : Operation → StoreM StoreAnswer
  | saveBot bot => do
    Storage.saveBot bot
    return .done
  | getBot botId => .bot <$> Storage.getBot botId
  | saveSession session => (.session ∘ some) <$> Storage.saveSession session
  | getSession botId senderId => .session <$> Storage.getSession botId senderId
  | saveBlock block => do
    Storage.saveBlock block
    return .done
  | getBlock botId blockId => .block <$> Storage.getBlock botId blockId
  | listBlocks botId enabledOnly => .blocks <$> Storage.listBlocks botId enabledOnly
  | findFlagged botId flag => .blockId <$> Storage.findFlagged botId flag.name
  | saveFlow flow => do
    Storage.saveFlow flow
    return .done
  | getFlow botId flowId => .flow <$> Storage.getFlow botId flowId
  | listFlows botId activeOnly => .flows <$> Storage.listFlows botId activeOnly
  | upsertContact botId senderId profile =>
    (.contact ∘ some) <$> Storage.upsertContact botId senderId profile
  | getContact botId senderId => .contact <$> Storage.getContact botId senderId
  | addEntry entry => do
    Storage.addEntry entry
    return .done
  | listEntries botId senderId limit => .entries <$> Storage.listEntries botId senderId (some limit)
  | bumpCount botId day direction newUser =>
    .count <$> Storage.bumpCount botId day direction newUser
  | getCount botId day => .count <$> Storage.getCount botId day

/-- What is to be kept or counted fits into 64 bits, and at least one entry is asked for. -/
def Fits : Operation → Prop
  | saveSession session => Cell.isLong session.currentCardIndex = false
  | listEntries _ _ limit => 1 ≤ limit ∧ Cell.isLong limit = false
  | _ => True

/-- A later operation gives no id of an earlier one to another owner or entry, and its entry is
later. -/
def Agrees : Operation → Operation → Prop
  | saveSession session, saveSession other =>
    session.id = other.id → session.botId = other.botId ∧ session.senderId = other.senderId
  | saveBlock block, saveBlock other => block.id = other.id → block.botId = other.botId
  | saveFlow flow, saveFlow other => flow.id = other.id → flow.botId = other.botId
  | addEntry entry, addEntry other =>
    entry.id ≠ other.id ∧
      (entry.botId = other.botId → entry.timestamp.micros < other.timestamp.micros)
  | _, _ => True

end Operation

/-- The answers to operations that are asked one after the other. -/
def Storage.answers : List Operation → Storage → List (Except Failure StoreAnswer)
  | [], _ => []
  | operation :: rest, storage =>
    let (answer, reached) := outcome operation.ask storage
    answer :: answers rest reached

/-! ### Answers that are alike -/

def Block.undated (block : Block) : Block := { block with createdAt := ⟨0, none⟩ }

def Flow.undated (flow : Flow) : Flow := { flow with createdAt := ⟨0, none⟩ }

def Contact.undated (contact : Contact) : Contact :=
  { contact with id := "", firstSeenAt := ⟨0, none⟩, lastSeenAt := ⟨0, none⟩ }

/-- An answer without the ids and times that a store makes up. -/
def StoreAnswer.undated : StoreAnswer → StoreAnswer
  | block found => .block (found.map (·.undated))
  | blocks listed => .blocks (listed.map (·.undated))
  | flow found => .flow (found.map (·.undated))
  | flows listed => .flows (listed.map (·.undated))
  | contact found => .contact (found.map (·.undated))
  | answer => answer

/-- Both answers are given, and they say the same. -/
def Alike (answer other : Except Failure StoreAnswer) : Prop :=
  ∃ said said', answer = .ok said ∧ other = .ok said' ∧ said.undated = said'.undated

namespace Storage

def onMemory (memory : Memory) (source : Source) : Storage := { store := .memory memory, source }

def onSql (sql : Sql) (source : Source) : Storage := { store := .sql sql, source }

end Storage

open Storage (onMemory onSql)

section

variable {α β : Type} {memory : Memory} {sql written : Sql} {source : Source}

theorem outcome_map_ok {action : StoreM α} {storage reached : Storage} {value : α}
    (h : outcome action storage = (.ok value, reached)) (f : α → β) :
    outcome (f <$> action) storage = (.ok (f value), reached) := by
  rw [map_eq_pure_bind, outcome_bind_of_ok h]
  rfl

namespace Sql

theorem insertContact_of_none {contact : Contact}
    (absent : sql.contact? contact.botId contact.senderId = none) :
    sql.insertContact contact = .ok { sql with contacts := sql.contacts ++ [contact] } := by
  have free : ¬ sql.contacts.any (·.isOf contact.botId contact.senderId) := by
    rw [contact?, List.find?_eq_none] at absent
    simpa using absent
  rw [insertContact, if_neg free]

/-- The counters of a day with one more message. -/
def nextCount (botId : String) (day : Day) (direction : Direction) (newUser : Bool) (sql : Sql) :
    DailyCount := ((sql.count? botId day).getD { botId, day }).bump direction newUser

theorem nextCount_isOf (botId : String) (day : Day) (direction : Direction) (newUser : Bool)
    (sql : Sql) : (sql.nextCount botId day direction newUser).isOf botId day := by
  cases counted : sql.count? botId day with
  | some count =>
    have same : count.isOf botId day := List.find?_some counted
    rw [nextCount, counted]
    exact same
  | none =>
    rw [nextCount, counted]
    simp [DailyCount.bump, DailyCount.isOf]

def countMessage (botId : String) (day : Day) (direction : Direction) (newUser : Bool) (sql : Sql) :
    Sql :=
  let count := sql.nextCount botId day direction newUser
  { sql with counts := Table.put (·.isOf botId day) count sql.counts }

end Sql

namespace Storage

theorem outcome_request_onSql (kind : Request) (inMemory : Memory → StoreM α)
    (inSql : Sql → StoreM α) (sql : Sql) (source : Source) :
    outcome (request kind inMemory inSql) (onSql sql source) =
      outcome (inSql sql) (onSql sql source) := rfl

theorem outcome_request_onMemory (kind : Request) (inMemory : Memory → StoreM α)
    (inSql : Sql → StoreM α) (memory : Memory) (source : Source) :
    outcome (request kind inMemory inSql) (onMemory memory source) =
      outcome (inMemory memory) (onMemory memory source) := rfl

theorem retrying_onSql {attempt : Sql → StoreM α} {value : α} {reached : Storage}
    (done : outcome (attempt sql) (onSql sql source) = (.ok value, reached)) (attempts : Nat) :
    outcome (retrying attempt attempts) (onSql sql source) = (.ok value, reached) := by
  rw [outcome_retrying _ _ rfl, done]
  cases attempts <;> rfl

theorem saveBot_onSql (bot : Bot) (sql : Sql) (source : Source) :
    ∃ next, outcome (saveBot bot) (onSql sql source) = (.ok (), onSql (sql.saveBot bot) next) := by
  change ∃ next, outcome (do
    if (sql.bot? bot.id).isNone then
      let _ ← draw Source.now
    setSql (sql.saveBot bot)) (onSql sql source) = (.ok (), onSql (sql.saveBot bot) next)
  split
  · exact ⟨_, rfl⟩
  · exact ⟨_, rfl⟩

theorem getSession_onSql {botId senderId : String} {row : SessionRow} {session : Session}
    (found : sql.sessionRow? botId senderId = some row) (valid : row.toSession = .ok session) :
    outcome (getSession botId senderId) (onSql sql source) =
      (.ok (some session), onSql sql source) := by
  have looked := outcome_lookUpSession botId senderId sql (onSql sql source)
  rw [getSession, outcome_request_onSql, outcome_bind_of_ok looked, found]
  dsimp only
  rw [valid]
  rfl

theorem getSession_onSql_of_none {botId senderId : String}
    (absent : sql.sessionRow? botId senderId = none) :
    outcome (getSession botId senderId) (onSql sql source) = (.ok none, onSql sql source) := by
  have looked := outcome_lookUpSession botId senderId sql (onSql sql source)
  rw [getSession, outcome_request_onSql, outcome_bind_of_ok looked, absent]
  rfl

theorem saveSession_onSql {session saved : Session}
    (done : sql.saveSession (sql.sessionRow? session.botId session.senderId) session =
      .ok (saved, written)) :
    outcome (saveSession session) (onSql sql source) =
      (.ok saved, onSql written (Source.now.run source).2) := by
  have tried : outcome (saveSession.attempt session sql) (onSql sql source) =
      (.ok saved, onSql written (Source.now.run source).2) := by
    rw [saveSession.attempt, outcome_bind_of_ok (outcome_lookUpSession _ _ sql _),
      outcome_bind_of_ok (outcome_draw Source.now _), done]
    rfl
  exact retrying_onSql tried (maxAttempts - 1)

theorem getBlock_onSql {botId blockId : String} {found : Option Block}
    (read : sql.block? botId blockId = .ok found) :
    outcome (getBlock botId blockId) (onSql sql source) = (.ok found, onSql sql source) := by
  change outcome (ofExcept (sql.block? botId blockId)) (onSql sql source) = _
  rw [read]
  rfl

theorem getFlow_onSql {botId flowId : String} {found : Option Flow}
    (read : sql.flow? botId flowId = .ok found) :
    outcome (getFlow botId flowId) (onSql sql source) = (.ok found, onSql sql source) := by
  change outcome (ofExcept (sql.flow? botId flowId)) (onSql sql source) = _
  rw [read]
  rfl

theorem findFlagged_onMemory {botId : String} {flagName : String} {found : Option String}
    (read : memory.flagged? botId flagName = .ok found) :
    outcome (findFlagged botId flagName) (onMemory memory source) =
      (.ok found, onMemory memory source) := by
  change outcome (ofExcept (memory.flagged? botId flagName)) (onMemory memory source) = _
  rw [read]
  rfl

theorem saveBlock_onSql {block : Block} (done : sql.saveBlock block = .ok written) :
    outcome (saveBlock block) (onSql sql source) = (.ok (), onSql written source) := by
  change outcome (do setSql (← ofExcept (sql.saveBlock block))) (onSql sql source) = _
  rw [done]
  rfl

theorem saveFlow_onSql {flow : Flow} (done : sql.saveFlow flow = .ok written) :
    outcome (saveFlow flow) (onSql sql source) = (.ok (), onSql written source) := by
  change outcome (do setSql (← ofExcept (sql.saveFlow flow))) (onSql sql source) = _
  rw [done]
  rfl

theorem upsertContact_onSql {botId senderId : String} {profile : Profile} {contact : Contact}
    {next : Source}
    (done : outcome (upsertContact.attempt botId senderId profile sql) (onSql sql source) =
      (.ok contact, onSql written next)) :
    outcome (upsertContact botId senderId profile) (onSql sql source) =
      (.ok contact, onSql written next) := retrying_onSql done (maxAttempts - 1)

def firstContact (botId senderId : String) (profile : Profile) (source : Source) : Contact :=
  { id := Source.idOf source.issued, botId, senderId, name := profile.name,
    profilePic := profile.picture, platform := profile.platform, messageCount := 1,
    firstSeenAt := ⟨source.micros, some 0⟩, lastSeenAt := ⟨source.micros + 1, some 0⟩ }

theorem visit_onMemory {botId senderId : String} {contact : Contact}
    (found : memory.contact? botId senderId = some contact) (profile : Profile) :
    outcome (upsertContact botId senderId profile) (onMemory memory source) =
      (.ok (contact.visit (Source.now.run source).1 profile.name profile.picture),
        onMemory (memory.saveContact
            (contact.visit (Source.now.run source).1 profile.name profile.picture))
          (Source.now.run source).2) := by
  rw [upsertContact, outcome_request_onMemory, found]
  rfl

theorem meet_onMemory {botId senderId : String} (absent : memory.contact? botId senderId = none)
    (profile : Profile) :
    outcome (upsertContact botId senderId profile) (onMemory memory source) =
      (.ok (firstContact botId senderId profile source),
        onMemory (memory.saveContact (firstContact botId senderId profile source))
          ⟨source.issued + 1, source.micros + 1 + 1⟩) := by
  rw [upsertContact, outcome_request_onMemory, absent]
  rfl

theorem visit_onSql {botId senderId : String} {contact : Contact}
    (found : sql.contact? botId senderId = some contact) (profile : Profile) :
    outcome (upsertContact botId senderId profile) (onSql sql source) =
      (.ok (contact.visit (Source.now.run source).1 profile.name profile.picture),
        onSql (sql.updateContact
            (contact.visit (Source.now.run source).1 profile.name profile.picture))
          (Source.now.run source).2) := by
  apply upsertContact_onSql
  rw [upsertContact.attempt, outcome_bind_of_ok (outcome_lookUpContact botId senderId sql _)]
  rw [found]
  rfl

theorem newContact_onSql (botId senderId : String) (profile : Profile) :
    outcome (newContact botId senderId profile) (onSql sql source) =
      (.ok (firstContact botId senderId profile source),
        onSql sql ⟨source.issued + 1, source.micros + 1 + 1⟩) := rfl

theorem meet_onSql {botId senderId : String} (absent : sql.contact? botId senderId = none)
    (profile : Profile) :
    outcome (upsertContact botId senderId profile) (onSql sql source) =
      (.ok (firstContact botId senderId profile source),
        onSql { sql with contacts := sql.contacts ++ [firstContact botId senderId profile source] }
          ⟨source.issued + 1, source.micros + 1 + 1⟩) := by
  have inserted : sql.insertContact (firstContact botId senderId profile source) = .ok { sql with
      contacts := sql.contacts ++ [firstContact botId senderId profile source] } :=
    Sql.insertContact_of_none absent
  apply upsertContact_onSql
  rw [upsertContact.attempt, outcome_bind_of_ok (outcome_lookUpContact botId senderId sql _)]
  rw [absent]
  dsimp only
  rw [outcome_bind_of_ok (newContact_onSql botId senderId profile), inserted]
  rfl

theorem countMessage_onSql (botId : String) (day : Day) (direction : Direction) (newUser : Bool)
    (sql : Sql) (source : Source) :
    ∃ issued, outcome (bumpCount.attempt botId day direction newUser sql) (onSql sql source) =
      (.ok (), onSql (sql.countMessage botId day direction newUser) ⟨issued, source.micros⟩) := by
  rw [bumpCount.attempt, Sql.addToCount]
  cases counted : sql.count? botId day with
  | some count =>
    have present : sql.counts.any (·.isOf botId day) := by
      rw [List.any_eq_true]
      exact ⟨count, List.mem_of_find?_eq_some counted, List.find?_some counted⟩
    rw [present, Sql.countMessage, Sql.nextCount, counted, Option.getD_some,
      Table.put_eq_update counted]
    exact ⟨_, rfl⟩
  | none =>
    have free : ¬ sql.counts.any (·.isOf botId day) := by
      rw [Sql.count?, List.find?_eq_none] at counted
      simpa using counted
    rw [eq_false_of_ne_true free, Table.update_of_none counted, Sql.countMessage,
      Table.put_of_none counted, Sql.nextCount, counted]
    refine ⟨source.issued + 1, ?_⟩
    dsimp only
    rw [outcome_bind_of_ok (outcome_draw _ _), Sql.insertCount, if_neg free]
    rfl

theorem bumpCount_onSql (botId : String) (day : Day) (direction : Direction) (newUser : Bool)
    (sql : Sql) (source : Source) :
    ∃ issued, outcome (bumpCount botId day direction newUser) (onSql sql source) =
      (.ok (some (sql.nextCount botId day direction newUser)),
        onSql (sql.countMessage botId day direction newUser) ⟨issued, source.micros⟩) := by
  obtain ⟨issued, counted⟩ := countMessage_onSql botId day direction newUser sql source
  have same : (sql.nextCount botId day direction newUser).isOf botId day := sql.nextCount_isOf ..
  refine ⟨issued, ?_⟩
  have retried := retrying_onSql counted (maxAttempts - 1)
  change outcome (do
    retrying (bumpCount.attempt botId day direction newUser) (maxAttempts - 1)
    getCount botId day) (onSql sql source) = _
  rw [outcome_bind_of_ok retried, ← Table.find?_put_same same sql.counts]
  rfl

theorem addEntry_onSql {entry : LogEntry} (done : sql.addEntry entry = .ok written) :
    outcome (addEntry entry) (onSql sql source) = (.ok (), onSql written source) := by
  change outcome (do setSql (← ofExcept (sql.addEntry entry))) (onSql sql source) = _
  rw [done]
  rfl

end Storage

end

end Parley
