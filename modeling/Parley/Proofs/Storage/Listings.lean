import Parley.Proofs.Storage.Content
import Parley.Proofs.Storage.Shelves
import Parley.Turn.Bootstrap

/-!
What a store lists that answers every request, and look-ups told by it: where all blocks are valid and
each has an id of its own, the block under an id, and the first one with a flag, are the first such
blocks in the list of the bot.
-/

namespace Parley

open Storage (Part SameBut)

/-! ### A store that works -/

/-- A store that answers every request. -/
structure Storage.Works (storage : Storage) : Prop where
  whole : storage.broken = []
  up : storage.down = false

namespace Storage

variable {parts : List Part} {storage other : Storage}

theorem Works.refuses (works : storage.Works) (kind : Request) : storage.refuses kind = false := by
  rw [Storage.refuses, works.whole, works.up]
  cases storage.store <;> rfl

theorem SameBut.works (same : SameBut parts storage other) (works : storage.Works) : other.Works :=
  ⟨same.broken.trans works.whole, same.down.trans works.up⟩

theorem outcome_getBlock (botId blockId : String) (storage : Storage) :
    outcome (getBlock botId blockId) storage = (storage.findBlock botId blockId, storage) :=
  Touches.reads (Touches.getBlock botId blockId) storage

theorem Works.listBlocks (works : storage.Works) (botId : String) (enabledOnly : Bool) :
    outcome (Storage.listBlocks botId enabledOnly) storage =
      (.ok (storage.store.listBlocks botId enabledOnly), storage) := by
  rw [Storage.listBlocks, outcome_request_eq, works.refuses, if_neg Bool.false_ne_true]
  cases storage.store <;> rfl

theorem Works.listFlows (works : storage.Works) (botId : String) (activeOnly : Bool) :
    outcome (Storage.listFlows botId activeOnly) storage =
      (.ok (storage.store.listFlows botId activeOnly), storage) := by
  rw [Storage.listFlows, outcome_request_eq, works.refuses, if_neg Bool.false_ne_true]
  cases storage.store <;> rfl

end Storage

/-! ### Tables -/

namespace Table

variable {α : Type} {key : α → String} {table other : List α}

theorem find?_perm (same : table.Perm other) (apart : (table.map key).Nodup) (id : String) :
    table.find? (key · = id) = other.find? (key · = id) := by
  have apart' : (other.map key).Nodup := (same.map key).nodup_iff.mp apart
  cases found : table.find? (key · = id) with
  | none =>
    refine (List.find?_eq_none.mpr fun record member => ?_).symm
    exact List.find?_eq_none.mp found record (same.mem_iff.mpr member)
  | some record =>
    have hit := List.find?_some found
    have member := same.mem_iff.mp (List.mem_of_find?_eq_some found)
    rw [← of_decide_eq_true hit, find?_of_mem apart' member]

theorem find?_filter (apart : (table.map key).Nodup) (keeps : α → Bool) (id : String) :
    (table.filter keeps).find? (key · = id) = (table.find? (key · = id)).filter keeps := by
  cases found : table.find? (key · = id) with
  | none =>
    refine List.find?_eq_none.mpr fun record member => ?_
    exact List.find?_eq_none.mp found record (List.mem_filter.mp member).1
  | some record =>
    have hit := List.find?_some found
    have held := List.mem_of_find?_eq_some found
    rw [Option.filter_some]
    split
    · rename_i kept
      have apart' : ((table.filter keeps).map key).Nodup :=
        apart.sublist (List.filter_sublist.map key)
      rw [← of_decide_eq_true hit, find?_of_mem apart' (List.mem_filter.mpr ⟨held, kept⟩)]
    · rename_i out
      refine List.find?_eq_none.mpr fun another member same => out ?_
      obtain ⟨held', kept⟩ := List.mem_filter.mp member
      have keys := (of_decide_eq_true same).trans (of_decide_eq_true hit).symm
      rwa [List.inj_on_of_nodup_map apart held' held keys] at kept

end Table

/-! ### Rows that can be read -/

section

variable {ρ α : Type} {read : ρ → Except Failure α} {p : ρ → Bool} {q : α → Bool}

theorem validOnly_filter (same : ∀ row record, read row = .ok record → p row = q record)
    (rows : List ρ) : validOnly ((rows.filter p).map read) = (validOnly (rows.map read)).filter q := by
  induction rows with
  | nil => rfl
  | cons row rest ih =>
    have parts (answers : List (Except Failure α)) :
        validOnly (read row :: answers) = (read row).toOption.toList ++ validOnly answers := by
      cases read row <;> rfl
    rw [List.map_cons, parts, List.filter_append, ← ih]
    cases kept : p row with
    | true =>
      rw [List.filter_cons_of_pos kept, List.map_cons, parts]
      cases valid : read row with
      | error failure => rfl
      | ok record =>
        have keeps : q record = true := (same row record valid).symm.trans kept
        simp [Except.toOption, keeps]
    | false =>
      rw [List.filter_cons_of_neg (by simp [kept])]
      cases valid : read row with
      | error failure => rfl
      | ok record =>
        have drops : q record = false := (same row record valid).symm.trans kept
        simp [Except.toOption, drops]

theorem validOnly_find? {rows : List ρ} (valid : ∀ row ∈ rows, ∃ record, read row = .ok record)
    (same : ∀ row record, read row = .ok record → p row = q record) :
    (rows.find? p).map read = ((validOnly (rows.map read)).find? q).map .ok := by
  induction rows with
  | nil => rfl
  | cons row rest ih =>
    obtain ⟨record, readable⟩ := valid row List.mem_cons_self
    have later := ih fun row member => valid row (List.mem_cons_of_mem _ member)
    have parts : validOnly ((row :: rest).map read) = record :: validOnly (rest.map read) := by
      rw [List.map_cons, readable]
      rfl
    rw [parts, List.find?_cons, List.find?_cons, ← same row record readable]
    cases p row with
    | true => exact congrArg some readable
    | false => exact later

end

/-! ### Blocks -/

theorem BlockRow.toBlock_flags {row : BlockRow} {block : Block} (read : row.toBlock = .ok block) :
    row.isEnabled = block.isEnabled ∧ row.isDefaultAnswer = block.isDefaultAnswer := by
  unfold BlockRow.toBlock BlockRow.check at read
  cases cards : Schema.readAuthoredList Card.read row.cards <;>
    cases triggers : Schema.readAuthoredList Schema.readText row.triggers <;>
    rw [cards, triggers] at read <;>
    cases read
  exact ⟨rfl, rfl⟩

theorem Sql.listBlocks_all (botId : String) (sql : Sql) :
    sql.listBlocks botId false = validOnly ((sql.blockRows botId).map (·.toBlock)) := by
  rw [Sql.listBlocks, List.filter_eq_self.mpr fun row _ => by simp]

theorem Store.listBlocks_enabled (botId : String) (store : Store) :
    store.listBlocks botId true = (store.listBlocks botId false).filter (·.isEnabled) := by
  cases store with
  | memory memory =>
    rw [listBlocks, listBlocks, Memory.listBlocks, Memory.listBlocks, List.filter_filter]
    refine List.filter_congr fun block _ => ?_
    simp [Bool.and_comm]
  | sql sql =>
    rw [listBlocks, listBlocks, Sql.listBlocks_all, Sql.listBlocks,
      ← validOnly_filter fun row block read => (BlockRow.toBlock_flags read).1]
    simp only [Bool.not_true, Bool.or_false]

theorem Store.listBlocks_apart {store : Store} (apart : store.blockIds.Nodup) (botId : String) :
    ((store.listBlocks botId false).map (·.id)).Nodup := by
  cases store with
  | memory memory => exact List.Nodup.sublist (List.filter_sublist.map _) apart
  | sql sql =>
    have rows : ((sql.blockRows botId).map (·.id)).Nodup := by
      refine ((List.mergeSort_perm _ _).map _).nodup_iff.mpr ?_
      exact List.Nodup.sublist (List.filter_sublist.map _) apart
    rw [listBlocks, Sql.listBlocks_all]
    refine rows.sublist ?_
    clear rows
    induction sql.blockRows botId with
    | nil => exact List.Sublist.refl []
    | cons row rest ih =>
      rw [List.map_cons, List.map_cons]
      cases read : row.toBlock with
      | error failure => exact ih.cons _
      | ok block =>
        have parts (answers : List (Except Failure Block)) :
            validOnly (.ok block :: answers) = block :: validOnly answers := rfl
        rw [parts, List.map_cons, (BlockRow.toBlock_same read).1]
        exact ih.cons_cons _

namespace Storage

variable {storage : Storage}

theorem Works.flagged?_listed (works : storage.Works) (valid : storage.store.BlocksValid)
    (botId : String) :
    storage.flagged? botId Bootstrap.answerFlag =
      .ok (((storage.store.listBlocks botId false).find? (·.isDefaultAnswer)).map (·.id)) := by
  rw [flagged?, works.whole, if_neg List.not_mem_nil, works.up]
  cases content : storage.store with
  | memory memory =>
    have named : Block.flag? Bootstrap.answerFlag = some (·.isDefaultAnswer) := rfl
    simp only [Memory.flagged?, named, Store.listBlocks, Memory.listBlocks, List.find?_filter,
      Bool.not_false, Bool.or_true, Bool.and_true, Bool.decide_and, Bool.decide_eq_true]
  | sql sql =>
    rw [content] at valid
    have named : Sql.rowFlag? Bootstrap.answerFlag = some (·.isDefaultAnswer) := rfl
    have rows : ∀ row ∈ sql.blockRows botId, ∃ block, row.toBlock = .ok block :=
      fun row member => valid row (List.mem_filter.mp (List.mem_mergeSort.mp member)).1
    have same := validOnly_find? rows fun row block read => (BlockRow.toBlock_flags read).2
    rw [named, Store.listBlocks, Sql.listBlocks_all]
    simp only [Bool.false_eq_true, if_false, Sql.flagged?]
    cases first : (sql.blockRows botId).find? (·.isDefaultAnswer) with
    | none =>
      rw [first] at same
      rw [Option.map_eq_none_iff.mp same.symm]
      rfl
    | some row =>
      rw [first] at same
      obtain ⟨block, listed, read⟩ := Option.map_eq_some_iff.mp same.symm
      rw [listed, Option.map_some, Option.map_some, (BlockRow.toBlock_same read.symm).1]

theorem Works.findBlock_listed (works : storage.Works) (valid : storage.store.BlocksValid)
    (apart : storage.store.blockIds.Nodup) (botId blockId : String) :
    storage.findBlock botId blockId =
      .ok ((storage.store.listBlocks botId false).find? (·.id = blockId)) := by
  rw [findBlock_eq, works.whole, if_neg List.not_mem_nil, works.up]
  cases content : storage.store with
  | memory memory =>
    rw [content] at apart
    have listed : memory.listBlocks botId false = memory.blocks.filter (·.botId = botId) := by
      rw [Memory.listBlocks]
      simp only [Bool.not_false, Bool.or_true, Bool.and_true]
    rw [Store.listBlocks, listed, Table.find?_filter apart]
    rfl
  | sql sql =>
    rw [content] at valid apart
    have rows : ∀ row ∈ sql.blockRows botId, ∃ block, row.toBlock = .ok block :=
      fun row member => valid row (List.mem_filter.mp (List.mem_mergeSort.mp member)).1
    have same := validOnly_find? rows (p := (·.id = blockId)) (q := (·.id = blockId))
      fun row block read => by rw [(BlockRow.toBlock_same read).1]
    have apart' : ((sql.blocks.filter (·.botId = botId)).map (·.id)).Nodup :=
      List.Nodup.sublist (List.filter_sublist.map _) apart
    -- rows are sorted before they are listed, which is no matter as their ids differ
    have row : (sql.blockRows botId).find? (·.id = blockId) = sql.blockRow? botId blockId := by
      rw [Sql.blockRows, ← Table.find?_perm (List.mergeSort_perm _ _).symm apart',
        Table.find?_filter apart, Sql.blockRow?]
    rw [row] at same
    dsimp only
    rw [Store.listBlocks, Sql.listBlocks_all, if_neg Bool.false_ne_true, Sql.block?]
    cases look : sql.blockRow? botId blockId with
    | none =>
      rw [look] at same
      rw [Option.map_eq_none_iff.mp same.symm]
    | some row =>
      rw [look] at same
      obtain ⟨block, listed, read⟩ := Option.map_eq_some_iff.mp same.symm
      dsimp only
      rw [listed, ← read]
      rfl

end Storage

end Parley
