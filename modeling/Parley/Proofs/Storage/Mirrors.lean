import Parley.Proofs.Storage.Operations
import Parley.Proofs.Storage.Parallel
import Parley.Proofs.Storage.Sessions

/-!
A database that holds what a memory holds: blocks and flows as rows with numbers, sessions as rows
with their ids, contacts but for what was made up for them. Whatever is saved in both keeps it so.
-/

namespace Parley

/-! ### Rows that hold what is in memory -/

/-- A row as it comes from a block, but for its number and its time. -/
def BlockRow.Holds (row : BlockRow) (block : Block) : Prop :=
  ∃ seq createdAt, row = BlockRow.write block { id := block.id, seq, botId := block.botId, createdAt }

def FlowRow.Holds (row : FlowRow) (flow : Flow) : Prop :=
  ∃ seq createdAt, row = FlowRow.write flow { id := flow.id, seq, botId := flow.botId, createdAt }

def BlockFlag.ofRow : BlockFlag → BlockRow → Bool
  | .welcome => (·.isWelcome)
  | .defaultAnswer => (·.isDefaultAnswer)

def BlockFlag.ofBlock : BlockFlag → Block → Bool
  | .welcome => (·.isWelcome)
  | .defaultAnswer => (·.isDefaultAnswer)

namespace BlockRow.Holds

variable {row : BlockRow} {block old : Block}

theorem same (holds : row.Holds block) :
    row.id = block.id ∧ row.botId = block.botId ∧ row.isEnabled = block.isEnabled := by
  obtain ⟨seq, createdAt, rfl⟩ := holds
  exact ⟨rfl, rfl, rfl⟩

theorem flag (holds : row.Holds block) (flag : BlockFlag) : flag.ofRow row = flag.ofBlock block := by
  obtain ⟨seq, createdAt, rfl⟩ := holds
  cases flag <;> rfl

theorem toBlock (holds : row.Holds block) :
    ∃ read, row.toBlock = .ok read ∧ read.undated = block.undated := by
  obtain ⟨seq, createdAt, rfl⟩ := holds
  exact ⟨_, BlockRow.toBlock_write _ _, rfl⟩

theorem write (holds : row.Holds old) (id : old.id = block.id) (bot : old.botId = block.botId) :
    (row.write block).Holds block := by
  obtain ⟨seq, createdAt, rfl⟩ := holds
  refine ⟨seq, createdAt, ?_⟩
  rw [← id, ← bot]
  rfl

end BlockRow.Holds

namespace FlowRow.Holds

variable {row : FlowRow} {flow old : Flow}

theorem same (holds : row.Holds flow) :
    row.id = flow.id ∧ row.botId = flow.botId ∧ row.isActive = flow.isActive := by
  obtain ⟨seq, createdAt, rfl⟩ := holds
  exact ⟨rfl, rfl, rfl⟩

theorem toFlow (holds : row.Holds flow) :
    ∃ read, row.toFlow = .ok read ∧ read.undated = flow.undated := by
  obtain ⟨seq, createdAt, rfl⟩ := holds
  exact ⟨_, FlowRow.toFlow_write _ _, rfl⟩

theorem write (holds : row.Holds old) (id : old.id = flow.id) (bot : old.botId = flow.botId) :
    (row.write flow).Holds flow := by
  obtain ⟨seq, createdAt, rfl⟩ := holds
  refine ⟨seq, createdAt, ?_⟩
  rw [← id, ← bot]
  rfl

end FlowRow.Holds

theorem Contact.isOf_of_undated {contact other : Contact} (same : contact.undated = other.undated)
    (botId senderId : String) : contact.isOf botId senderId = other.isOf botId senderId :=
  (congrArg (Contact.isOf botId senderId) same :)

theorem Contact.visit_undated {contact other : Contact} (same : contact.undated = other.undated)
    (now now' : Timestamp) (name picture : Option String) :
    (contact.visit now name picture).undated = (other.visit now' name picture).undated :=
  (congrArg (Contact.visit ⟨0, none⟩ name picture) same :)

/-! ### A database beside the memory -/

section

variable {ρ α : Type}

/-- Numbered rows that hold the records which were saved by some operations. -/
structure Kept (R : ρ → α → Prop) (place : ρ → String × Cell) (save : α → Operation)
    (past : List Operation) (rows : List ρ) (records : List α) : Prop where
  parallel : List.Forall₂ R rows records
  saved : ∀ record ∈ records, save record ∈ past
  numbered : Numbered (rows.map place)
  counted : records.length ≤ past.length

namespace Kept

variable {R : ρ → α → Prop} {place : ρ → String × Cell} {save : α → Operation}
  {past : List Operation} {rows : List ρ} {records : List α}

theorem later (kept : Kept R place save past rows records) (operation : Operation) :
    Kept R place save (past ++ [operation]) rows records where
  parallel := kept.parallel
  saved record member := List.mem_append_left _ (kept.saved record member)
  numbered := kept.numbered
  counted := Nat.le_trans kept.counted (by simp)

theorem saved_put (kept : Kept R place save past rows records) (replaces : α → Bool) (record : α) :
    ∀ other ∈ Table.put replaces record records, save other ∈ past ++ [save record] := by
  intro other member
  rcases Table.mem_put member with old | rfl
  · exact List.mem_append_left _ (kept.saved other old)
  · exact List.mem_append_right _ List.mem_cons_self

theorem saveRow (kept : Kept R place save past rows records) (few : past.length + 1 < Nat.pow 2 63)
    {p : ρ → Bool} {q : α → Bool} {write : ρ → ρ} {fresh : Cell → ρ} {botId : String} {record : α}
    (same : ∀ row record, R row record → p row = q record)
    (holds : ∀ row, ∀ old ∈ records, R row old → q old → R (write row) record)
    (stays : ∀ row, place (write row) = place row)
    (fits : ∀ seq, R (write (fresh seq)) record ∧ place (write (fresh seq)) = (botId, seq)) :
    ∃ rows', Table.saveRow p place write botId fresh rows = .ok rows' ∧
      Kept R place save (past ++ [save record]) rows' (Table.put q record records) := by
  have beside : Table.Beside R place rows records := ⟨kept.parallel, kept.numbered⟩
  have counted := kept.counted
  obtain ⟨rows', saved⟩ : ∃ rows', Table.saveRow p place write botId fresh rows = .ok rows' :=
    beside.goes (by omega)
  have placed := beside.save saved same holds stays fits
  have size := Table.length_put_le q record records
  refine ⟨rows', saved, placed.parallel, kept.saved_put q record, placed.numbered, ?_⟩
  rw [List.length_append, List.length_singleton]
  omega

end Kept

end

/-! ### What is listed -/

section

variable {sql : Sql}

theorem Sql.blockRows_parallel {blocks : List Block}
    (parallel : List.Forall₂ BlockRow.Holds sql.blocks blocks)
    (numbered : Numbered (sql.blocks.map BlockRow.place)) (botId : String) :
    List.Forall₂ BlockRow.Holds (sql.blockRows botId) (blocks.filter (·.botId = botId)) :=
  Table.Beside.scanned ⟨parallel, numbered⟩ botId (fun _ _ holds => holds.same.2.1)
    fun _ _ before => before _

theorem Sql.listBlocks_parallel {blocks : List Block}
    (parallel : List.Forall₂ BlockRow.Holds sql.blocks blocks)
    (numbered : Numbered (sql.blocks.map BlockRow.place)) (botId : String) (enabledOnly : Bool) :
    (sql.listBlocks botId enabledOnly).map (·.undated) =
      (blocks.filter fun block => block.botId = botId && (block.isEnabled || !enabledOnly)).map
        (·.undated) :=
  Table.listed_parallel (Sql.blockRows_parallel parallel numbered botId)
    (fun _ _ holds => by rw [holds.same.2.2]) fun _ _ holds => holds.toBlock

theorem Sql.listFlows_parallel {flows : List Flow}
    (parallel : List.Forall₂ FlowRow.Holds sql.flows flows)
    (numbered : Numbered (sql.flows.map FlowRow.place)) (botId : String) (activeOnly : Bool) :
    (sql.listFlows botId activeOnly).map (·.undated) =
      (flows.filter fun flow => flow.botId = botId && (flow.isActive || !activeOnly)).map
        (·.undated) := by
  have scanned : List.Forall₂ FlowRow.Holds (sql.flowRows botId) (flows.filter (·.botId = botId)) :=
    Table.Beside.scanned ⟨parallel, numbered⟩ botId (fun _ _ holds => holds.same.2.1)
      fun _ _ before => before _
  exact Table.listed_parallel scanned (fun _ _ holds => by rw [holds.same.2.2])
    fun _ _ holds => holds.toFlow

end

/-- A database holds what is in memory after some operations. -/
structure Mirrors (past : List Operation) (memory : Memory) (sql : Sql) : Prop where
  bots : sql.bots = memory.bots
  sessions : sql.sessions = memory.sessions.map (·.toRow)
  sessionIds : (memory.sessions.map (·.id)).Nodup
  sessionsSaved : ∀ session ∈ memory.sessions, ∃ saved, .saveSession saved ∈ past ∧
    saved.id = session.id ∧ saved.botId = session.botId ∧ saved.senderId = session.senderId
  blocks : Kept BlockRow.Holds BlockRow.place .saveBlock past sql.blocks memory.blocks
  flows : Kept FlowRow.Holds FlowRow.place .saveFlow past sql.flows memory.flows
  contacts : List.Forall₂ (fun contact other => contact.undated = other.undated) sql.contacts
    memory.contacts
  entries : sql.entries = memory.entries
  entriesAdded : ∀ entry ∈ memory.entries, .addEntry entry ∈ past
  entriesLater : memory.entries.Pairwise fun entry other =>
    entry.botId = other.botId → entry.timestamp.micros < other.timestamp.micros
  counts : sql.counts = memory.counts

namespace Mirrors

theorem empty : Mirrors [] {} {} := by
  constructor <;> first | rfl | exact ⟨.nil, nofun, Numbered.nil, Nat.le_refl 0⟩ | simp

variable {past : List Operation} {memory : Memory} {sql : Sql}

theorem later (mirrors : Mirrors past memory sql) (operation : Operation) :
    Mirrors (past ++ [operation]) memory sql where
  __ := mirrors
  sessionsSaved session member := by
    obtain ⟨saved, asked, same⟩ := mirrors.sessionsSaved session member
    exact ⟨saved, List.mem_append_left _ asked, same⟩
  blocks := mirrors.blocks.later operation
  flows := mirrors.flows.later operation
  entriesAdded entry member := List.mem_append_left _ (mirrors.entriesAdded entry member)

/-! ### Sessions -/

theorem sessionRow? (mirrors : Mirrors past memory sql) (botId senderId : String) :
    sql.sessionRow? botId senderId = (memory.session? botId senderId).map (·.toRow) := by
  rw [Sql.sessionRow?, mirrors.sessions, List.find?_map]
  rfl

/-- A session whose id is taken belongs to the sender that has it already. -/
theorem session_of_id (mirrors : Mirrors past memory sql) {session other : Session}
    (agree : ∀ earlier ∈ past, earlier.Agrees (.saveSession session))
    (member : other ∈ memory.sessions) (same : other.id = session.id) :
    other.isOf session.botId session.senderId := by
  obtain ⟨saved, asked, id, bot, sender⟩ := mirrors.sessionsSaved other member
  obtain ⟨bot', sender'⟩ := agree _ asked (id.trans same)
  simp [Session.isOf, ← bot, ← sender, bot', sender']

theorem saveSession (mirrors : Mirrors past memory sql) {session : Session}
    (fits : Cell.isLong session.currentCardIndex = false)
    (agree : ∀ earlier ∈ past, earlier.Agrees (.saveSession session)) :
    ∃ written, sql.saveSession (sql.sessionRow? session.botId session.senderId) session =
        .ok ((memory.saveSession session).1, written) ∧
      Mirrors (past ++ [.saveSession session]) (memory.saveSession session).2 written := by
  have later := mirrors.later (.saveSession session)
  unfold Sql.saveSession
  rw [mirrors.sessionRow?, if_neg (by simp [fits])]
  cases found : memory.session? session.botId session.senderId with
  | some old =>
    have member := List.mem_of_find?_eq_some found
    have owned := List.find?_some found
    simp only [Session.isOf, Bool.and_eq_true, decide_eq_true_eq] at owned
    have only (other : Session) (inside : other ∈ memory.sessions)
        (same : decide (other.toRow.id = old.id)) : other = old :=
      List.inj_on_of_nodup_map mirrors.sessionIds inside member (of_decide_eq_true same)
    have change : SessionRow.write session old.toRow =
        ({ session with id := old.id } : Session).toRow := by
      simp [Session.toRow, SessionRow.write, owned]
    have saved : memory.saveSession session = ({ session with id := old.id }, { memory with
        sessions := Table.put (·.isOf session.botId session.senderId)
          { session with id := old.id } memory.sessions }) := by
      rw [Memory.saveSession, found]
      rfl
    rw [saved]
    refine ⟨_, rfl, { later with sessions := ?_, sessionIds := ?_, sessionsSaved := ?_ }⟩
    · exact (congrArg _ mirrors.sessions).trans
        (Table.update_map found (decide_eq_true rfl) only change)
    · have kept : (Table.put _ { session with id := old.id } memory.sessions).map (·.id) =
          memory.sessions.map (·.id) := Table.map_put found rfl
      exact kept ▸ mirrors.sessionIds
    · intro other inside
      rcases Table.mem_put inside with kept | rfl
      · exact later.sessionsSaved other kept
      · obtain ⟨first, asked, id, bot, sender⟩ := later.sessionsSaved old member
        exact ⟨first, asked, id, bot.trans owned.1, sender.trans owned.2⟩
  | none =>
    have strangers (other : Session) (inside : other ∈ memory.sessions) :
        ¬ other.isOf session.botId session.senderId := List.find?_eq_none.mp found other inside
    have free : ¬ sql.sessions.any fun row =>
        row.id = session.id || row.isOf session.botId session.senderId := by
      rw [mirrors.sessions, List.any_map, List.any_eq_true]
      rintro ⟨other, inside, taken⟩
      rcases Bool.or_eq_true_iff.mp taken with same | owned
      · exact strangers other inside
          (mirrors.session_of_id agree inside (of_decide_eq_true same))
      · exact strangers other inside owned
    have saved : memory.saveSession session = (session, { memory with
        sessions := memory.sessions ++ [session] }) := by
      rw [Memory.saveSession, found, Table.put_of_none found]
      rfl
    rw [saved]
    dsimp only [Option.map_none]
    rw [if_neg free]
    refine ⟨_, rfl, { later with sessions := ?_, sessionIds := ?_, sessionsSaved := ?_ }⟩
    · rw [mirrors.sessions, List.map_append]
      rfl
    · rw [List.map_append, List.nodup_append]
      refine ⟨mirrors.sessionIds, List.nodup_singleton _, ?_⟩
      rintro id inside last added rfl
      obtain ⟨other, kept, same⟩ := List.mem_map.mp inside
      exact strangers other kept
        (mirrors.session_of_id agree kept (same.trans (List.mem_singleton.mp added)))
    · intro other inside
      rcases List.mem_append.mp inside with kept | new
      · exact later.sessionsSaved other kept
      · cases List.mem_singleton.mp new
        exact ⟨session, List.mem_append_right _ List.mem_cons_self, rfl, rfl, rfl⟩

/-! ### Blocks and flows -/

theorem saveBlock (mirrors : Mirrors past memory sql) {block : Block}
    (agree : ∀ earlier ∈ past, earlier.Agrees (.saveBlock block))
    (few : past.length + 1 < Nat.pow 2 63) :
    ∃ written, sql.saveBlock block = .ok written ∧
      Mirrors (past ++ [.saveBlock block]) (memory.saveBlock block) written := by
  have later := mirrors.later (.saveBlock block)
  have ids (row : BlockRow) (other : Block) (holds : row.Holds other) :
      decide (row.id = block.id) = decide (other.id = block.id) := by rw [holds.same.1]
  have holds (row : BlockRow) (other : Block) (member : other ∈ memory.blocks)
      (holds : row.Holds other) (same : decide (other.id = block.id)) : (row.write block).Holds block :=
    have id := of_decide_eq_true same
    holds.write id (agree _ (mirrors.blocks.saved other member) id)
  obtain ⟨rows, saved, kept⟩ := mirrors.blocks.saveRow few ids holds (fun _ => rfl)
    fun seq => ⟨⟨seq, block.createdAt, rfl⟩, rfl⟩
  rw [Sql.saveBlock_rows, saved]
  exact ⟨_, rfl, { later with blocks := kept }⟩

theorem saveFlow (mirrors : Mirrors past memory sql) {flow : Flow}
    (agree : ∀ earlier ∈ past, earlier.Agrees (.saveFlow flow))
    (few : past.length + 1 < Nat.pow 2 63) :
    ∃ written, sql.saveFlow flow = .ok written ∧
      Mirrors (past ++ [.saveFlow flow]) (memory.saveFlow flow) written := by
  have later := mirrors.later (.saveFlow flow)
  have ids (row : FlowRow) (other : Flow) (holds : row.Holds other) :
      decide (row.id = flow.id) = decide (other.id = flow.id) := by rw [holds.same.1]
  have holds (row : FlowRow) (other : Flow) (member : other ∈ memory.flows)
      (holds : row.Holds other) (same : decide (other.id = flow.id)) : (row.write flow).Holds flow :=
    have id := of_decide_eq_true same
    holds.write id (agree _ (mirrors.flows.saved other member) id)
  obtain ⟨rows, saved, kept⟩ := mirrors.flows.saveRow few ids holds (fun _ => rfl)
    fun seq => ⟨⟨seq, flow.createdAt, rfl⟩, rfl⟩
  rw [Sql.saveFlow_rows, saved]
  exact ⟨_, rfl, { later with flows := kept }⟩

/-! ### The rest -/

theorem saveBot (mirrors : Mirrors past memory sql) (bot : Bot) :
    Mirrors past (memory.saveBot bot) (sql.saveBot bot) where
  __ := mirrors
  bots := congrArg (Table.put _ bot) mirrors.bots

theorem addEntry (mirrors : Mirrors past memory sql) {entry : LogEntry}
    (agree : ∀ earlier ∈ past, earlier.Agrees (.addEntry entry)) :
    ∃ written, sql.addEntry entry = .ok written ∧
      Mirrors (past ++ [.addEntry entry]) (memory.addEntry entry) written := by
  have free : ¬ sql.entries.any (·.id = entry.id) := by
    rw [mirrors.entries, List.any_eq_true]
    rintro ⟨other, member, same⟩
    exact (agree _ (mirrors.entriesAdded other member)).1 (of_decide_eq_true same)
  rw [Sql.addEntry, if_neg free]
  refine ⟨_, rfl, { mirrors.later (.addEntry entry) with
    entries := congrArg (· ++ [entry]) mirrors.entries, entriesAdded := ?_, entriesLater := ?_ }⟩
  · intro other member
    rcases List.mem_append.mp member with old | new
    · exact List.mem_append_left _ (mirrors.entriesAdded other old)
    · rw [List.mem_singleton.mp new]
      exact List.mem_append_right _ List.mem_cons_self
  · refine List.pairwise_append.mpr ⟨mirrors.entriesLater, List.pairwise_singleton _ _, ?_⟩
    intro other member last new
    rw [List.mem_singleton.mp new]
    exact (agree _ (mirrors.entriesAdded other member)).2

theorem count? (mirrors : Mirrors past memory sql) (botId : String) (day : Day) :
    sql.count? botId day = memory.count? botId day := by
  rw [Sql.count?, mirrors.counts]
  rfl

theorem bumpCount (mirrors : Mirrors past memory sql) (botId : String) (day : Day)
    (direction : Direction) (newUser : Bool) :
    sql.nextCount botId day direction newUser = (memory.bumpCount botId day direction newUser).1 ∧
      Mirrors past (memory.bumpCount botId day direction newUser).2
        (sql.countMessage botId day direction newUser) := by
  have next : sql.nextCount botId day direction newUser =
      (memory.bumpCount botId day direction newUser).1 := by
    rw [Sql.nextCount, mirrors.count?]
    rfl
  refine ⟨next, { mirrors with counts := ?_ }⟩
  change Table.put _ (sql.nextCount botId day direction newUser) sql.counts = _
  rw [next, mirrors.counts]
  rfl

/-! ### Contacts -/

theorem contact? (mirrors : Mirrors past memory sql) (botId senderId : String) :
    Option.Rel (fun contact other => contact.undated = other.undated) (sql.contact? botId senderId)
      (memory.contact? botId senderId) :=
  Table.find?_parallel mirrors.contacts fun _ _ same => Contact.isOf_of_undated same botId senderId

theorem updateContact (mirrors : Mirrors past memory sql) {row contact : Contact}
    (same : row.undated = contact.undated)
    (known : (memory.contact? contact.botId contact.senderId).isSome) :
    Mirrors past (memory.saveContact contact) (sql.updateContact row) where
  __ := mirrors
  contacts := by
    have bot : row.botId = contact.botId := (congrArg Contact.botId same :)
    have sender : row.senderId = contact.senderId := (congrArg Contact.senderId same :)
    rw [Sql.updateContact, bot, sender]
    exact Table.update_parallel mirrors.contacts
      (fun _ _ same => Contact.isOf_of_undated same contact.botId contact.senderId)
      (fun _ _ _ _ _ => same) known

theorem insertContact (mirrors : Mirrors past memory sql) {row contact : Contact}
    (same : row.undated = contact.undated)
    (new : memory.contact? contact.botId contact.senderId = none) :
    Mirrors past (memory.saveContact contact) { sql with contacts := sql.contacts ++ [row] } where
  __ := mirrors
  contacts := by
    rw [Memory.saveContact, Table.put_of_none new]
    exact Table.append_parallel mirrors.contacts same

/-! ### Look-ups and lists -/

theorem block? (mirrors : Mirrors past memory sql) (botId blockId : String) :
    ∃ found, sql.block? botId blockId = .ok found ∧
      found.map (·.undated) = (memory.block? botId blockId).map (·.undated) := by
  have found : Option.Rel BlockRow.Holds (sql.blockRow? botId blockId)
      (memory.block? botId blockId) :=
    Table.filter_found
      (Table.find?_parallel mirrors.blocks.parallel fun _ _ holds => by rw [holds.same.1])
      fun _ _ holds => by rw [holds.same.2.1]
  rw [Sql.block?]
  rcases Table.found_cases found with ⟨miss, miss'⟩ | ⟨row, block, hit, hit', holds⟩
  · rw [miss, miss']
    exact ⟨none, rfl, rfl⟩
  · obtain ⟨read, valid, same⟩ := holds.toBlock
    rw [hit, hit']
    dsimp only
    rw [valid]
    exact ⟨some read, rfl, congrArg some same⟩

theorem blockRows (mirrors : Mirrors past memory sql) (botId : String) :
    List.Forall₂ BlockRow.Holds (sql.blockRows botId) (memory.blocks.filter (·.botId = botId)) :=
  Sql.blockRows_parallel mirrors.blocks.parallel mirrors.blocks.numbered botId

theorem listBlocks (mirrors : Mirrors past memory sql) (botId : String) (enabledOnly : Bool) :
    (sql.listBlocks botId enabledOnly).map (·.undated) =
      (memory.listBlocks botId enabledOnly).map (·.undated) :=
  Sql.listBlocks_parallel mirrors.blocks.parallel mirrors.blocks.numbered botId enabledOnly

theorem flagged? (mirrors : Mirrors past memory sql) (botId : String) (flag : BlockFlag) :
    memory.flagged? botId flag.name = .ok (sql.flagged? botId flag.ofRow) := by
  have found := Table.find?_parallel (mirrors.blockRows botId) fun _ _ holds => holds.flag flag
  have known : Block.flag? flag.name = some flag.ofBlock := by cases flag <;> rfl
  simp only [List.find?_filter, Bool.decide_and, Bool.decide_eq_true] at found
  rw [Memory.flagged?, known, Sql.flagged?]
  dsimp only
  rcases Table.found_cases found with ⟨miss, miss'⟩ | ⟨row, block, hit, hit', holds⟩
  · rw [miss, miss']
    rfl
  · rw [hit, hit', Option.map_some, Option.map_some, holds.same.1]

theorem flow? (mirrors : Mirrors past memory sql) (botId flowId : String) :
    ∃ found, sql.flow? botId flowId = .ok found ∧
      found.map (·.undated) = (memory.flow? botId flowId).map (·.undated) := by
  have found : Option.Rel FlowRow.Holds (sql.flowRow? botId flowId) (memory.flow? botId flowId) :=
    Table.filter_found
      (Table.find?_parallel mirrors.flows.parallel fun _ _ holds => by rw [holds.same.1])
      fun _ _ holds => by rw [holds.same.2.1]
  rw [Sql.flow?]
  rcases Table.found_cases found with ⟨miss, miss'⟩ | ⟨row, flow, hit, hit', holds⟩
  · rw [miss, miss']
    exact ⟨none, rfl, rfl⟩
  · obtain ⟨read, valid, same⟩ := holds.toFlow
    rw [hit, hit']
    dsimp only
    rw [valid]
    exact ⟨some read, rfl, congrArg some same⟩

theorem listFlows (mirrors : Mirrors past memory sql) (botId : String) (activeOnly : Bool) :
    (sql.listFlows botId activeOnly).map (·.undated) =
      (memory.listFlows botId activeOnly).map (·.undated) :=
  Sql.listFlows_parallel mirrors.flows.parallel mirrors.flows.numbered botId activeOnly

theorem listEntries (mirrors : Mirrors past memory sql) (botId : String) (senderId : Option String)
    {limit : Int} (positive : 1 ≤ limit) :
    sql.listEntries botId senderId (some limit) = memory.listEntries botId senderId (some limit) := by
  rw [Sql.listEntries_eq positive (mirrors.entries ▸ mirrors.entriesLater), mirrors.entries]
  rfl

end Mirrors

end Parley
