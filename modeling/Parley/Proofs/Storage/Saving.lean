import Parley.Proofs.Storage.Content
import Parley.Proofs.Storage.Operations
import Parley.Proofs.Storage.Owners
import Parley.Proofs.Storage.Parts
import Parley.Proofs.Storage.RoundTrip

/-!
Saving a block or a flow of a bot. It is stored under an id that all bots share, so what other bots are
answered stays the same only if the id is not that of a record of theirs.
-/

namespace Parley

/-! ### What a bot is answered -/

/-- Whatever a bot asks about its blocks and flows, it is answered the same. -/
structure Storage.AnswersSame (botId : String) (storage reached : Storage) : Prop where
  getBlock : ∀ blockId, reached.findBlock botId blockId = storage.findBlock botId blockId
  listBlocks : ∀ enabledOnly, (outcome (listBlocks botId enabledOnly) reached).1 =
    (outcome (listBlocks botId enabledOnly) storage).1
  findFlagged : ∀ flagName, reached.flagged? botId flagName = storage.flagged? botId flagName
  getFlow : ∀ flowId, reached.findFlow botId flowId = storage.findFlow botId flowId
  listFlows : ∀ activeOnly, (outcome (listFlows botId activeOnly) reached).1 =
    (outcome (listFlows botId activeOnly) storage).1

/-- A bot finds the same blocks and flows in two memories. -/
structure Memory.ShowsSame (botId : String) (memory reached : Memory) : Prop where
  blocks : Table.ShowsSame Block.id Block.botId botId memory.blocks reached.blocks
  flows : Table.ShowsSame Flow.id Flow.botId botId memory.flows reached.flows

/-- A bot finds the same blocks and flows in two databases. -/
structure Sql.ShowsSame (botId : String) (sql reached : Sql) : Prop where
  blocks : Table.ShowsSame BlockRow.id BlockRow.botId botId sql.blocks reached.blocks
  flows : Table.ShowsSame FlowRow.id FlowRow.botId botId sql.flows reached.flows

theorem Table.ShowsSame.filter {α : Type} {key owner : α → String} {botId : String}
    {table reached : List α} (shows : Table.ShowsSame key owner botId table reached)
    (keeps : α → Bool) :
    reached.filter (fun record => owner record = botId && keeps record) =
      table.filter fun record => owner record = botId && keeps record := by
  have both (records : List α) :
      records.filter (fun record => owner record = botId && keeps record) =
        (records.filter (owner · = botId)).filter keeps := by
    rw [List.filter_filter]
    simp only [Bool.and_comm]
  rw [both, both, shows.listed]

namespace Memory.ShowsSame

variable {botId : String} {memory reached : Memory}

theorem flagged? (shows : memory.ShowsSame botId reached) (flagName : String) :
    reached.flagged? botId flagName = memory.flagged? botId flagName := by
  have listed := shows.blocks.listed
  unfold Memory.flagged?
  cases Block.flag? flagName with
  | some flag =>
    dsimp only
    rw [← List.head?_filter, ← List.head?_filter, shows.blocks.filter flag]
  | none =>
    have owned (blocks : List Block) :
        blocks.any (·.botId = botId) = (blocks.filter (·.botId = botId)).any (·.botId = botId) :=
      (Table.any_filter_in fun _ _ own => own).symm
    dsimp only
    rw [owned reached.blocks, owned memory.blocks, listed]

theorem answers (shows : memory.ShowsSame botId reached) {storage : Storage}
    (content : storage.store = .memory memory) :
    storage.AnswersSame botId { storage with store := .memory reached } where
  getBlock blockId := by
    rw [Storage.findBlock_eq, Storage.findBlock_eq, content]
    dsimp only
    rw [Memory.block?, Memory.block?, shows.blocks.found]
  listBlocks enabledOnly := by
    rw [Storage.listBlocks, Storage.outcome_request, Storage.outcome_request, content]
    split
    · rfl
    · exact congrArg Except.ok (shows.blocks.filter _)
  findFlagged flagName := by
    rw [Storage.flagged?, Storage.flagged?, content]
    dsimp only
    rw [shows.flagged?]
  getFlow flowId := by
    rw [Storage.findFlow_eq, Storage.findFlow_eq, content]
    dsimp only
    rw [Memory.flow?, Memory.flow?, shows.flows.found]
  listFlows activeOnly := by
    rw [Storage.listFlows, Storage.outcome_request, Storage.outcome_request, content]
    split
    · rfl
    · exact congrArg Except.ok (shows.flows.filter _)

theorem ofBlocks {storage : Storage} (content : storage.store = .memory memory) {blocks : List Block}
    (shows : Table.ShowsSame Block.id Block.botId botId memory.blocks blocks) :
    storage.AnswersSame botId { storage with store := .memory { memory with blocks } } := by
  have whole : memory.ShowsSame botId { memory with blocks } := ⟨shows, .refl _ _ _ _⟩
  exact whole.answers content

theorem ofFlows {storage : Storage} (content : storage.store = .memory memory) {flows : List Flow}
    (shows : Table.ShowsSame Flow.id Flow.botId botId memory.flows flows) :
    storage.AnswersSame botId { storage with store := .memory { memory with flows } } := by
  have whole : memory.ShowsSame botId { memory with flows } := ⟨.refl _ _ _ _, shows⟩
  exact whole.answers content

end Memory.ShowsSame

namespace Sql.ShowsSame

variable {botId : String} {sql reached : Sql}

theorem answers (shows : sql.ShowsSame botId reached) {storage : Storage}
    (content : storage.store = .sql sql) :
    storage.AnswersSame botId { storage with store := .sql reached } where
  getBlock blockId := by
    rw [Storage.findBlock_eq, Storage.findBlock_eq, content]
    simp only [Sql.block?, Sql.blockRow?, shows.blocks.found]
  listBlocks enabledOnly := by
    rw [Storage.listBlocks, Storage.outcome_request, Storage.outcome_request, content]
    simp only [Sql.listBlocks, Sql.blockRows, shows.blocks.listed]
    split
    · rfl
    · split <;> rfl
  findFlagged flagName := by
    rw [Storage.flagged?, Storage.flagged?, content]
    simp only [Sql.flagged?, Sql.blockRows, shows.blocks.listed]
  getFlow flowId := by
    rw [Storage.findFlow_eq, Storage.findFlow_eq, content]
    simp only [Sql.flow?, Sql.flowRow?, shows.flows.found]
  listFlows activeOnly := by
    rw [Storage.listFlows, Storage.outcome_request, Storage.outcome_request, content]
    simp only [Sql.listFlows, Sql.flowRows, shows.flows.listed]
    split
    · rfl
    · split <;> rfl

theorem ofBlocks {storage : Storage} (content : storage.store = .sql sql) {blocks : List BlockRow}
    (shows : Table.ShowsSame BlockRow.id BlockRow.botId botId sql.blocks blocks) :
    storage.AnswersSame botId { storage with store := .sql { sql with blocks } } := by
  have whole : sql.ShowsSame botId { sql with blocks } := ⟨shows, .refl _ _ _ _⟩
  exact whole.answers content

theorem ofFlows {storage : Storage} (content : storage.store = .sql sql) {flows : List FlowRow}
    (shows : Table.ShowsSame FlowRow.id FlowRow.botId botId sql.flows flows) :
    storage.AnswersSame botId { storage with store := .sql { sql with flows } } := by
  have whole : sql.ShowsSame botId { sql with flows } := ⟨.refl _ _ _ _, shows⟩
  exact whole.answers content

end Sql.ShowsSame

theorem Storage.findBlock_of_row {storage : Storage} {sql : Sql} {row : BlockRow} {blockId : String}
    (content : storage.store = .sql sql) (works : storage.broken = []) (up : storage.down = false)
    (first : sql.blocks.find? (·.id = blockId) = some row) (botId : String) :
    storage.findBlock botId blockId =
      if row.botId = botId then row.toBlock.map some else .ok none := by
  rw [findBlock_eq, works, if_neg List.not_mem_nil, content, up]
  by_cases own : row.botId = botId <;>
    simp [Sql.block?, Sql.blockRow?, first, Option.filter, own]

theorem Storage.findFlow_of_row {storage : Storage} {sql : Sql} {row : FlowRow} {flowId : String}
    (content : storage.store = .sql sql) (works : storage.broken = []) (up : storage.down = false)
    (first : sql.flows.find? (·.id = flowId) = some row) (botId : String) :
    storage.findFlow botId flowId =
      if row.botId = botId then row.toFlow.map some else .ok none := by
  rw [findFlow_eq, works, if_neg List.not_mem_nil, content, up]
  by_cases own : row.botId = botId <;>
    simp [Sql.flow?, Sql.flowRow?, first, Option.filter, own]

/-! ### What is saved -/

inductive Content where
  | block (block : Block)
  | flow (flow : Flow)

namespace Content

def botId : Content → String
  | .block given => given.botId
  | .flow given => given.botId

def save : Content → StoreM Unit
  | .block given => Storage.saveBlock given
  | .flow given => Storage.saveFlow given

def owner? : Content → Store → Option String
  | .block given, .memory memory => (memory.blocks.find? (·.id = given.id)).map (·.botId)
  | .block given, .sql sql => (sql.blocks.find? (·.id = given.id)).map (·.botId)
  | .flow given, .memory memory => (memory.flows.find? (·.id = given.id)).map (·.botId)
  | .flow given, .sql sql => (sql.flows.find? (·.id = given.id)).map (·.botId)

/-- A bot that asks for its content is answered it, but for the time of its creation. -/
def Found (storage : Storage) : Content → Prop
  | .block given => ∃ found, storage.findBlock given.botId given.id = .ok (some found) ∧
      found.undated = given.undated
  | .flow given => ∃ found, storage.findFlow given.botId given.id = .ok (some found) ∧
      found.undated = given.undated

/-- How saving content turns out. -/
inductive Saves (storage : Storage) : Content → Except Failure Unit × Storage → Prop where
  | failed {content : Content} {failure : Failure} : Saves storage content (.error failure, storage)
  | block {memory : Memory} {given : Block} (holds : storage.store = .memory memory) :
    Saves storage (.block given) (.ok (), { storage with store := .memory { memory with
      blocks := Table.put (·.id = given.id) given memory.blocks } })
  | flow {memory : Memory} {given : Flow} (holds : storage.store = .memory memory) :
    Saves storage (.flow given) (.ok (), { storage with store := .memory { memory with
      flows := Table.put (·.id = given.id) given memory.flows } })
  | blockRow {sql : Sql} {given : Block} {seq : Cell} (holds : storage.store = .sql sql)
    (up : storage.down = false) :
    Saves storage (.block given) (.ok (), { storage with store := .sql { sql with
      blocks := Table.put (·.id = given.id) (BlockRow.write given
        ((sql.blocks.find? (·.id = given.id)).getD
          { id := given.id, seq, botId := given.botId, createdAt := given.createdAt })) sql.blocks } })
  | flowRow {sql : Sql} {given : Flow} {seq : Cell} (holds : storage.store = .sql sql)
    (up : storage.down = false) :
    Saves storage (.flow given) (.ok (), { storage with store := .sql { sql with
      flows := Table.put (·.id = given.id) (FlowRow.write given
        ((sql.flows.find? (·.id = given.id)).getD
          { id := given.id, seq, botId := given.botId, createdAt := given.createdAt })) sql.flows } })

theorem save_saves (content : Content) (storage : Storage) :
    Saves storage content (outcome content.save storage) := by
  cases content with
  | block given =>
    rw [save, Storage.saveBlock, Storage.outcome_write]
    split
    · exact .failed
    · rename_i taken
      cases holds : storage.store with
      | memory memory => exact .block holds
      | sql sql =>
        simp only [Storage.refuses, holds, Bool.or_eq_true, not_or, Bool.not_eq_true] at taken
        rw [Storage.written, Sql.saveBlock_eq]
        generalize (if sql.blocks.any (·.id = given.id) then _ else _ : Except Failure Cell) = numbered
        cases numbered with
        | error failure => exact .failed
        | ok seq => exact .blockRow holds taken.2
  | flow given =>
    rw [save, Storage.saveFlow, Storage.outcome_write]
    split
    · exact .failed
    · rename_i taken
      cases holds : storage.store with
      | memory memory => exact .flow holds
      | sql sql =>
        simp only [Storage.refuses, holds, Bool.or_eq_true, not_or, Bool.not_eq_true] at taken
        rw [Storage.written, Sql.saveFlow_eq]
        generalize (if sql.flows.any (·.id = given.id) then _ else _ : Except Failure Cell) = numbered
        cases numbered with
        | error failure => exact .failed
        | ok seq => exact .flowRow holds taken.2

variable {storage reached : Storage} {content : Content}

/-- What is saved under an id of its own does not show to other bots. -/
theorem Saves.apart (saves : Saves storage content (.ok (), reached))
    (owned : ∀ owner, content.owner? storage.store = some owner → owner = content.botId)
    {botId : String} (other : botId ≠ content.botId) : storage.AnswersSame botId reached := by
  have stranger {owner : String} (same : content.owner? storage.store = some owner) :
      owner ≠ botId := fun mine => other (mine.symm.trans (owned owner same))
  cases saves with
  | block holds =>
    rw [holds] at stranger
    exact Memory.ShowsSame.ofBlocks holds (.put rfl (Ne.symm other)
      fun old first => stranger (congrArg (Option.map Block.botId) first))
  | flow holds =>
    rw [holds] at stranger
    exact Memory.ShowsSame.ofFlows holds (.put rfl (Ne.symm other)
      fun old first => stranger (congrArg (Option.map Flow.botId) first))
  | blockRow holds up =>
    rw [holds] at stranger
    exact Sql.ShowsSame.ofBlocks holds (.write rfl (fun _ => ⟨rfl, rfl⟩) (Ne.symm other)
      fun old first => stranger (congrArg (Option.map BlockRow.botId) first))
  | flowRow holds up =>
    rw [holds] at stranger
    exact Sql.ShowsSame.ofFlows holds (.write rfl (fun _ => ⟨rfl, rfl⟩) (Ne.symm other)
      fun old first => stranger (congrArg (Option.map FlowRow.botId) first))

section

variable {sql : Sql}

theorem exists_found_iff {α : Type} {own : Prop} [Decidable own] {record : α} {good : α → Prop}
    (fits : own → good record) :
    (∃ found, (if own then (Except.ok record).map some else .ok none : Except Failure (Option α)) =
      .ok (some found) ∧ good found) ↔ own := by
  constructor
  · rintro ⟨found, answered, _⟩
    by_contra strange
    rw [if_neg strange] at answered
    cases answered
  · intro mine
    exact ⟨record, if_pos mine, fits mine⟩

theorem found_blockRow {given : Block} {seq : Cell} (works : reached.broken = [])
    (up : reached.down = false) (holds : reached.store = .sql { sql with
      blocks := Table.put (·.id = given.id) (BlockRow.write given
        ((sql.blocks.find? (·.id = given.id)).getD
          { id := given.id, seq, botId := given.botId, createdAt := given.createdAt })) sql.blocks }) :
    (Content.block given).Found reached ↔
      (owner? (.block given) (.sql sql)).getD given.botId = given.botId := by
  let fresh : BlockRow := { id := given.id, seq, botId := given.botId, createdAt := given.createdAt }
  let row := (sql.blocks.find? (·.id = given.id)).getD fresh
  have id : row.id = given.id := Table.key_getD BlockRow.id (rfl : fresh.id = given.id) sql.blocks
  have owner : (owner? (.block given) (.sql sql)).getD given.botId = row.botId :=
    Option.getD_map BlockRow.botId fresh _
  have written : reached.findBlock given.botId given.id =
      if row.botId = given.botId then (BlockRow.write given row).toBlock.map some else .ok none :=
    Storage.findBlock_of_row holds works up (Table.find?_put_getD BlockRow.id (BlockRow.write given)
      (rfl : fresh.id = given.id) (fun _ => rfl) sql.blocks) given.botId
  rw [Found, written, BlockRow.toBlock_write, owner]
  exact exists_found_iff fun own => by rw [Block.undated, id, own]; rfl

theorem found_flowRow {given : Flow} {seq : Cell} (works : reached.broken = [])
    (up : reached.down = false) (holds : reached.store = .sql { sql with
      flows := Table.put (·.id = given.id) (FlowRow.write given
        ((sql.flows.find? (·.id = given.id)).getD
          { id := given.id, seq, botId := given.botId, createdAt := given.createdAt })) sql.flows }) :
    (Content.flow given).Found reached ↔
      (owner? (.flow given) (.sql sql)).getD given.botId = given.botId := by
  let fresh : FlowRow := { id := given.id, seq, botId := given.botId, createdAt := given.createdAt }
  let row := (sql.flows.find? (·.id = given.id)).getD fresh
  have id : row.id = given.id := Table.key_getD FlowRow.id (rfl : fresh.id = given.id) sql.flows
  have owner : (owner? (.flow given) (.sql sql)).getD given.botId = row.botId :=
    Option.getD_map FlowRow.botId fresh _
  have written : reached.findFlow given.botId given.id =
      if row.botId = given.botId then (FlowRow.write given row).toFlow.map some else .ok none :=
    Storage.findFlow_of_row holds works up (Table.find?_put_getD FlowRow.id (FlowRow.write given)
      (rfl : fresh.id = given.id) (fun _ => rfl) sql.flows) given.botId
  rw [Found, written, FlowRow.toFlow_write, owner]
  exact exists_found_iff fun own => by rw [Flow.undated, id, own]; rfl

end

theorem Saves.found (saves : Saves storage content (.ok (), reached)) (works : storage.broken = [])
    (owned : ∀ owner, content.owner? storage.store = some owner → owner = content.botId) :
    content.Found reached := by
  have own : (content.owner? storage.store).getD content.botId = content.botId := by
    cases owner : content.owner? storage.store with
    | none => rfl
    | some botId => exact owned botId owner
  cases saves with
  | block holds =>
    rename_i memory given
    have stored : (Table.put (·.id = given.id) given memory.blocks).find? (·.id = given.id) =
        some given := Table.find?_put_same (by simp) _
    refine ⟨given, ?_, rfl⟩
    simp [Storage.findBlock_eq, works, Memory.block?, stored]
  | flow holds =>
    rename_i memory given
    have stored : (Table.put (·.id = given.id) given memory.flows).find? (·.id = given.id) =
        some given := Table.find?_put_same (by simp) _
    refine ⟨given, ?_, rfl⟩
    simp [Storage.findFlow_eq, works, Memory.flow?, stored]
  | blockRow holds up =>
    rw [holds] at own
    refine (found_blockRow ?_ ?_ rfl).mpr own
    · exact works
    · exact up
  | flowRow holds up =>
    rw [holds] at own
    refine (found_flowRow ?_ ?_ rfl).mpr own
    · exact works
    · exact up

/-- What is saved under the id of a record of another bot takes that from the other bot, or is not
found by its own. -/
theorem Saves.clash (saves : Saves storage content (.ok (), reached)) (works : storage.broken = [])
    {owner : String} (taken : content.owner? storage.store = some owner)
    (strange : owner ≠ content.botId) :
    ¬ storage.AnswersSame owner reached ∨ ¬ content.Found reached := by
  cases saves with
  | block holds =>
    rename_i memory given
    left
    intro same
    rw [holds] at taken
    obtain ⟨old, first, rfl⟩ := Option.map_eq_some_iff.mp taken
    have stored : (Table.put (·.id = given.id) given memory.blocks).find? (·.id = given.id) =
        some given := Table.find?_put_same (by simp) _
    have before : storage.findBlock old.botId given.id = .ok (some old) := by
      simp [Storage.findBlock_eq, works, holds, Memory.block?, first]
    have answer := (same.getBlock given.id).trans before
    rw [Storage.findBlock_eq] at answer
    have one : given = old := by simpa [works, Memory.block?, stored] using answer
    exact strange (congrArg Block.botId one.symm)
  | flow holds =>
    rename_i memory given
    left
    intro same
    rw [holds] at taken
    obtain ⟨old, first, rfl⟩ := Option.map_eq_some_iff.mp taken
    have stored : (Table.put (·.id = given.id) given memory.flows).find? (·.id = given.id) =
        some given := Table.find?_put_same (by simp) _
    have before : storage.findFlow old.botId given.id = .ok (some old) := by
      simp [Storage.findFlow_eq, works, holds, Memory.flow?, first]
    have answer := (same.getFlow given.id).trans before
    rw [Storage.findFlow_eq] at answer
    have one : given = old := by simpa [works, Memory.flow?, stored] using answer
    exact strange (congrArg Flow.botId one.symm)
  | blockRow holds up =>
    rw [holds] at taken
    right
    refine mt (found_blockRow ?_ ?_ rfl).mp ?_
    · exact works
    · exact up
    · rw [taken]
      exact strange
  | flowRow holds up =>
    rw [holds] at taken
    right
    refine mt (found_flowRow ?_ ?_ rfl).mp ?_
    · exact works
    · exact up
    · rw [taken]
      exact strange

end Content

/-- Content that can be saved is saved apart from that of all other bots exactly if its id is not that of
a record of another bot; content that cannot be saved leaves no trace. -/
theorem content_is_saved_apart_iff (content : Content) {storage : Storage}
    (works : storage.broken = []) :
    match outcome content.save storage with
    | (.error _, reached) => reached = storage
    | (.ok _, reached) =>
      ((∀ botId, botId ≠ content.botId → storage.AnswersSame botId reached) ∧ content.Found reached ↔
        ∀ owner, content.owner? storage.store = some owner → owner = content.botId) := by
  have saves := content.save_saves storage
  rcases run : outcome content.save storage with ⟨answer, reached⟩
  rw [run] at saves
  cases answer with
  | error failure =>
    cases saves
    rfl
  | ok saved =>
    constructor
    · rintro ⟨apart, found⟩ owner taken
      by_contra strange
      rcases saves.clash works taken strange with seen | lost
      · exact seen (apart owner strange)
      · exact lost found
    · intro owned
      exact ⟨fun botId other => saves.apart owned other, saves.found works owned⟩

def menuOf (botId name : String) : Block where
  id := "menu"
  botId := botId
  name := name
  createdAt := ⟨0, none⟩

def renting : Storage where
  store := .memory { blocks := [menuOf "bot-2" "Two"] }
  source := { micros := 0 }

def rentingRows : Storage where
  store := .sql { blocks := [BlockRow.write (menuOf "bot-2" "Two")
    { id := "menu", botId := "bot-2", createdAt := ⟨0, none⟩ }] }
  source := { micros := 0 }

/-- A block under the id of another bot's block takes its place in memory; in a database it is written
into the row of the other bot and not found by its own. -/
theorem shared_id_mixes_bots :
    (∃ reached, outcome (Storage.saveBlock (menuOf "bot-1" "One")) renting = (.ok (), reached) ∧
      renting.findBlock "bot-2" "menu" = .ok (some (menuOf "bot-2" "Two")) ∧
      reached.findBlock "bot-2" "menu" = .ok none) ∧
    ∃ reached, outcome (Storage.saveBlock (menuOf "bot-1" "One")) rentingRows = (.ok (), reached) ∧
      reached.findBlock "bot-2" "menu" = .ok (some (menuOf "bot-2" "One")) ∧
      reached.findBlock "bot-1" "menu" = .ok none :=
  ⟨⟨_, rfl, rfl, rfl⟩, _, rfl, rfl, rfl⟩

theorem new_id_is_saved_apart :
    renting.broken = [] ∧ ∃ reached,
      outcome (Storage.saveBlock { menuOf "bot-1" "One" with id := "menu-1" }) renting =
        (.ok (), reached) ∧
      (∀ botId, botId ≠ "bot-1" → renting.AnswersSame botId reached) ∧
      (Content.block { menuOf "bot-1" "One" with id := "menu-1" }).Found reached := by
  have saved := content_is_saved_apart_iff (.block { menuOf "bot-1" "One" with id := "menu-1" })
    (rfl : renting.broken = [])
  exact ⟨rfl, _, rfl, saved.mpr fun owner taken => by cases taken⟩

end Parley
