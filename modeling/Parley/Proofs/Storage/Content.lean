import Mathlib.Algebra.Ring.Nat
import Mathlib.Data.List.Nodup
import Parley.Proofs.Storage.Sessions
import Parley.Proofs.Storage.Unseen

/-!
Blocks and flows in a store whose content is sound: whatever is listed is also found by its id, and
nothing that is found is invalid.
-/

namespace Parley

open Schema
open Storage (Part SameBut)

/-- No request fails, and look-ups are up to date. -/
structure Storage.Calm (storage : Storage) : Prop where
  works : storage.broken = []
  up : storage.down = false
  current : storage.staleSessions = 0

/-- Each id is that of one record, and none is empty. -/
structure Memory.Sound (memory : Memory) : Prop where
  blockIds : (memory.blocks.map (·.id)).Nodup
  flowIds : (memory.flows.map (·.id)).Nodup
  blocks : ∀ block ∈ memory.blocks, block.id ≠ ""
  flows : ∀ flow ∈ memory.flows, flow.id ≠ ""

/-- Each id is that of one row, none is empty, and all blocks and flows are valid. -/
structure Sql.Sound (sql : Sql) : Prop where
  blockIds : (sql.blocks.map (·.id)).Nodup
  flowIds : (sql.flows.map (·.id)).Nodup
  blocks : ∀ row ∈ sql.blocks, row.id ≠ "" ∧ ∃ block, row.toBlock = .ok block
  flows : ∀ row ∈ sql.flows, row.id ≠ "" ∧ ∃ flow, row.toFlow = .ok flow

def Store.Sound : Store → Prop
  | .memory content => content.Sound
  | .sql content => content.Sound

theorem Storage.SameBut.sound {parts : List Part} {storage other : Storage}
    (same : SameBut parts storage other) (blocks : .blocks ∉ parts) (flows : .flows ∉ parts)
    (sound : storage.store.Sound) : other.store.Sound := by
  cases content : storage.store with
  | memory memory =>
    rw [content] at sound
    obtain ⟨memory', content', blank⟩ := same.memory content
    rw [content']
    have sameBlocks := Memory.blocks_eq blocks blank
    have sameFlows := Memory.flows_eq flows blank
    constructor
    · exact sameBlocks ▸ sound.blockIds
    · exact sameFlows ▸ sound.flowIds
    · exact sameBlocks ▸ sound.blocks
    · exact sameFlows ▸ sound.flows
  | sql sql =>
    rw [content] at sound
    obtain ⟨sql', content', blank⟩ := same.sql content
    rw [content']
    have sameBlocks := Sql.blocks_eq blocks blank
    have sameFlows := Sql.flows_eq flows blank
    constructor
    · exact sameBlocks ▸ sound.blockIds
    · exact sameFlows ▸ sound.flowIds
    · exact sameBlocks ▸ sound.blocks
    · exact sameFlows ▸ sound.flows

theorem Storage.Calm.of_current {parts : List Part} {storage other : Storage} (calm : storage.Calm)
    (same : SameBut parts storage other) (current : other.staleSessions = 0) : other.Calm where
  works := same.broken.trans calm.works
  up := same.down.trans calm.up
  current := current

theorem Storage.SameBut.calm {parts : List Part} {storage other : Storage}
    (same : SameBut parts storage other) (out : .sessionLookups ∉ parts) (calm : storage.Calm) :
    other.Calm :=
  calm.of_current same ((same.staleSessions out).trans calm.current)

/-! ### Rows -/

theorem BlockRow.toBlock_same {row : BlockRow} {block : Block} (read : row.toBlock = .ok block) :
    block.id = row.id ∧ block.botId = row.botId := by
  unfold BlockRow.toBlock BlockRow.check at read
  cases cards : readAuthoredList Card.read row.cards <;>
    cases triggers : readAuthoredList readText row.triggers <;>
    rw [cards, triggers] at read <;>
    cases read
  exact ⟨rfl, rfl⟩

theorem Table.find?_of_mem {α : Type} {key : α → String} {table : List α}
    (apart : (table.map key).Nodup) {record : α} (member : record ∈ table) :
    table.find? (key · = key record) = some record := by
  cases found : table.find? (key · = key record) with
  | none => exact absurd (decide_eq_true rfl) (List.find?_eq_none.mp found record member)
  | some other =>
    have same := List.find?_some found
    rw [List.inj_on_of_nodup_map apart (List.mem_of_find?_eq_some found) member
      (of_decide_eq_true same)]

theorem Table.owned_same {α : Type} {key owner : α → String} {table : List α} {botId id : String}
    {record : α} (found : (table.find? (key · = id)).filter (owner · = botId) = some record) :
    record ∈ table ∧ key record = id ∧ owner record = botId := by
  obtain ⟨hit, owned⟩ := Option.filter_eq_some_iff.mp found
  have same := List.find?_some hit
  exact ⟨List.mem_of_find?_eq_some hit, of_decide_eq_true same, of_decide_eq_true owned⟩

theorem mem_validOnly_map {ρ α : Type} {rows : List ρ} {read : ρ → Except Failure α} {record : α} :
    record ∈ validOnly (rows.map read) ↔ ∃ row ∈ rows, read row = .ok record := by
  rw [validOnly, List.filterMap_map, List.mem_filterMap]
  refine exists_congr fun row => and_congr_right fun _ => ?_
  cases answer : read row <;> simp [answer, Except.toOption]

/-! ### Blocks -/

/-- A look-up answers what it was asked for. -/
def FindBlock.Faithful (find : FindBlock) : Prop :=
  ∀ botId blockId block, find botId blockId = .ok (some block) →
    block.id = blockId ∧ block.botId = botId

theorem Memory.block?_same {memory : Memory} {botId blockId : String} {block : Block}
    (found : memory.block? botId blockId = some block) :
    block ∈ memory.blocks ∧ block.id = blockId ∧ block.botId = botId :=
  Table.owned_same found

theorem Sql.blockRow?_same {sql : Sql} {botId blockId : String} {row : BlockRow}
    (found : sql.blockRow? botId blockId = some row) :
    row ∈ sql.blocks ∧ row.id = blockId ∧ row.botId = botId :=
  Table.owned_same found

theorem Sql.block?_same {sql : Sql} {botId blockId : String} {block : Block}
    (found : sql.block? botId blockId = .ok (some block)) :
    ∃ row ∈ sql.blocks, row.toBlock = .ok block ∧ row.id = blockId ∧ row.botId = botId := by
  unfold Sql.block? at found
  cases look : sql.blockRow? botId blockId with
  | none =>
    rw [look] at found
    cases found
  | some row =>
    rw [look] at found
    obtain ⟨member, id, owned⟩ := Sql.blockRow?_same look
    cases read : row.toBlock <;> simp only [read, Except.map] at found <;> cases found
    exact ⟨row, member, read, id, owned⟩

namespace Storage

variable {storage : Storage}

theorem findBlock_eq (botId blockId : String) :
    storage.findBlock botId blockId =
      if .getBlock ∈ storage.broken then .error .storeDown
      else match storage.store with
        | .memory memory => .ok (memory.block? botId blockId)
        | .sql sql => if storage.down then .error .storeDown else sql.block? botId blockId := by
  change (outcome (getBlock botId blockId) storage).1 = _
  rw [getBlock, answer_request]
  cases storage.store with
  | memory memory => rfl
  | sql sql =>
    dsimp only
    rw [outcome_ofExcept]

theorem findBlock_faithful (storage : Storage) : FindBlock.Faithful storage.findBlock := by
  intro botId blockId block found
  rw [findBlock_eq] at found
  split at found
  · cases found
  · split at found
    · rename_i memory _
      exact (Memory.block?_same (Except.ok.inj found)).2
    · split at found
      · cases found
      · obtain ⟨row, _, read, id, owned⟩ := Sql.block?_same found
        obtain ⟨sameId, sameBot⟩ := BlockRow.toBlock_same read
        exact ⟨sameId.trans id, sameBot.trans owned⟩

theorem Calm.findBlock_ok (calm : storage.Calm) (sound : storage.store.Sound)
    (botId blockId : String) :
    ∃ found, storage.findBlock botId blockId = .ok found ∧ ∀ block ∈ found, block.id ≠ "" := by
  rw [findBlock_eq, calm.works, if_neg List.not_mem_nil, calm.up]
  cases content : storage.store with
  | memory memory =>
    rw [content] at sound
    refine ⟨_, rfl, fun block found => ?_⟩
    exact sound.blocks block (Memory.block?_same found).1
  | sql sql =>
    rw [content] at sound
    dsimp only
    rw [if_neg Bool.false_ne_true]
    cases look : sql.blockRow? botId blockId with
    | none => exact ⟨none, by rw [Sql.block?, look], fun block found => by cases found⟩
    | some row =>
      obtain ⟨member, _, _⟩ := Sql.blockRow?_same look
      obtain ⟨named, block, read⟩ := sound.blocks row member
      refine ⟨some block, by simp only [Sql.block?, look, read, Except.map], fun other found => ?_⟩
      cases found
      rw [(BlockRow.toBlock_same read).1]
      exact named

end Storage

/-! ### Flows -/

namespace Storage

variable {storage : Storage}

def findFlow (storage : Storage) (botId flowId : String) : Except Failure (Option Flow) :=
  (outcome (getFlow botId flowId) storage).1

theorem SameBut.findFlow {parts : List Part} {other : Storage} (same : SameBut parts storage other)
    (seen : .flows ∉ parts) (botId flowId : String) :
    other.findFlow botId flowId = storage.findFlow botId flowId :=
  (Respects.getFlow seen botId flowId storage other same).1.symm

theorem findFlow_eq (botId flowId : String) :
    storage.findFlow botId flowId =
      if .getFlow ∈ storage.broken then .error .storeDown
      else match storage.store with
        | .memory memory => .ok (memory.flow? botId flowId)
        | .sql sql => if storage.down then .error .storeDown else sql.flow? botId flowId := by
  rw [findFlow, getFlow, answer_request]
  cases storage.store with
  | memory memory => rfl
  | sql sql =>
    dsimp only
    rw [outcome_ofExcept]

end Storage

/-! ### Valid blocks -/

def Store.blocks : Store → List Block
  | .memory content => content.blocks
  | .sql content => validOnly (content.blocks.map (·.toBlock))

def Store.cardCount (store : Store) : Nat := (store.blocks.map (·.cards.length)).sum

def Store.BlocksValid : Store → Prop
  | .memory _ => True
  | .sql content => ∀ row ∈ content.blocks, ∃ block, row.toBlock = .ok block

/-- A store works and holds valid blocks only. -/
structure Storage.Serves (storage : Storage) : Prop where
  works : .getBlock ∉ storage.broken
  up : storage.down = false
  valid : storage.store.BlocksValid

namespace Storage

variable {storage : Storage}

theorem Serves.findBlock_ok (serves : storage.Serves) (botId blockId : String) :
    ∃ found, storage.findBlock botId blockId = .ok found := by
  rw [findBlock_eq, if_neg serves.works, serves.up]
  have valid := serves.valid
  cases content : storage.store with
  | memory memory => exact ⟨_, rfl⟩
  | sql sql =>
    rw [content] at valid
    simp only [Bool.false_eq_true, if_false, Sql.block?]
    cases look : sql.blockRow? botId blockId with
    | none => exact ⟨none, rfl⟩
    | some row =>
      obtain ⟨block, read⟩ := valid row (Sql.blockRow?_same look).1
      exact ⟨some block, by simp only [read, Except.map]⟩

theorem findBlock_mem {botId blockId : String} {block : Block}
    (found : storage.findBlock botId blockId = .ok (some block)) : block ∈ storage.store.blocks := by
  rw [findBlock_eq] at found
  split at found
  · cases found
  · cases content : storage.store with
    | memory memory =>
      rw [content] at found
      exact (Memory.block?_same (Except.ok.inj found)).1
    | sql sql =>
      simp only [content] at found
      split at found
      · cases found
      · obtain ⟨row, member, read, _⟩ := Sql.block?_same found
        exact mem_validOnly_map.mpr ⟨row, member, read⟩

end Storage

end Parley
