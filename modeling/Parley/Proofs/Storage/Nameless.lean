import Parley.Proofs.Storage.Confinement
import Parley.Proofs.Storage.Entries
import Parley.Proofs.Storage.Keeping
import Parley.Proofs.Storage.Parts

/-!
Stores that are the same but for what is made up for a new block: its id and the time of its creation.
They stay so when each saves a new block, and the two blocks differ in nothing else.
-/

namespace Parley

open Storage (Part SameBut)

/-- A block without what is made up for it. -/
def Block.nameless (block : Block) : Block := { block with id := "", createdAt := ⟨0, none⟩ }

def BlockRow.nameless (row : BlockRow) : BlockRow := { row with id := "", createdAt := ⟨0, none⟩ }

def Store.nameless : Store → Store
  | .memory content => .memory { content with blocks := content.blocks.map (·.nameless) }
  | .sql content => .sql { content with blocks := content.blocks.map (·.nameless) }

namespace Storage

def nameless (storage : Storage) : Storage := { storage with store := storage.store.nameless }

/-- Two storages that differ at most in some parts, and in what was made up for blocks. -/
def AlikeBut (parts : List Part) (storage other : Storage) : Prop :=
  SameBut parts storage.nameless other.nameless

end Storage

variable {parts : List Part} {storage other reached reached' : Storage} {block block' : Block}
  {store store' : Store}

theorem Store.nameless_blank (parts : List Part) (store : Store) :
    (store.blank parts).nameless = store.nameless.blank parts := by
  cases store <;> by_cases unseen : .blocks ∈ parts <;>
    simp [blank, nameless, Memory.blank, Sql.blank, unseen]

theorem Store.blank_nameless (unseen : .blocks ∈ parts) (store : Store) :
    store.nameless.blank parts = store.blank parts := by
  cases store <;> simp [blank, nameless, Memory.blank, Sql.blank, unseen]

namespace Storage

theorem SameBut.alike (same : SameBut parts storage other) : AlikeBut parts storage other := by
  have stores := congrArg (fun blanked : Storage => blanked.store.nameless) same
  simp only [AlikeBut, SameBut, blank, mk.injEq, Store.nameless_blank] at same stores ⊢
  exact ⟨stores, same.2⟩

namespace AlikeBut

theorem same (alike : AlikeBut parts storage other) : SameBut (.blocks :: parts) storage other := by
  have rest : SameBut (.blocks :: parts) storage.nameless other.nameless :=
    SameBut.mono alike (List.subset_cons_self _ _)
  simp only [SameBut, blank, nameless, Store.blank_nameless List.mem_cons_self] at rest ⊢
  exact rest

theorem after {more : List Part} (alike : AlikeBut parts storage other) (sub : more ⊆ parts)
    (kept : SameBut more storage reached) (kept' : SameBut more other reached') :
    AlikeBut parts reached reached' :=
  (SameBut.trans (kept.mono sub).alike.symm alike).trans (kept'.mono sub).alike

end AlikeBut

end Storage

/-! ### Ids of blocks -/

theorem Storage.SameBut.blockIds (same : SameBut parts storage other) (seen : .blocks ∉ parts) :
    other.store.blockIds = storage.store.blockIds := by
  cases content : storage.store with
  | memory memory =>
    obtain ⟨memory', content', blank⟩ := same.memory content
    rw [content', Store.blockIds, Store.blockIds, Memory.blocks_eq seen blank]
  | sql sql =>
    obtain ⟨sql', content', blank⟩ := same.sql content
    rw [content', Store.blockIds, Store.blockIds, Sql.blocks_eq seen blank]

/-! ### New blocks -/

def Store.addBlock (block : Block) : Store → Except Failure Store
  | .memory content => .ok (.memory { content with blocks := content.blocks ++ [block] })
  | .sql content =>
    (Sql.nextSeq ((content.blocks.filter (·.botId = block.botId)).map (·.seq))).map fun seq =>
      let row : BlockRow :=
        { id := block.id, seq, botId := block.botId, createdAt := block.createdAt }
      .sql { content with blocks := content.blocks ++ [row.write block] }

namespace Store

theorem addBlock_blank (seen : .blocks ∉ parts) (block : Block) (store : Store) :
    (store.blank parts).addBlock block = (store.addBlock block).map (·.blank parts) := by
  cases store with
  | memory content => simp [blank, addBlock, Memory.blank, seen, Except.map]
  | sql content =>
    simp only [blank, addBlock, Sql.blank, seen, if_false]
    cases Sql.nextSeq ((content.blocks.filter (·.botId = block.botId)).map (·.seq)) <;> rfl

theorem addBlock_nameless (block : Block) (store : Store) :
    store.nameless.addBlock block.nameless = (store.addBlock block).map (·.nameless) := by
  cases store with
  | memory content => simp [nameless, addBlock, Except.map]
  | sql content =>
    have seqs : ((content.blocks.map BlockRow.nameless).filter (·.botId = block.botId)).map (·.seq) =
        (content.blocks.filter (·.botId = block.botId)).map (·.seq) := by
      rw [List.filter_map, List.map_map]
      rfl
    have owner : block.nameless.botId = block.botId := rfl
    simp only [nameless, addBlock, owner, seqs]
    cases Sql.nextSeq ((content.blocks.filter (·.botId = block.botId)).map (·.seq)) with
    | error failure => rfl
    | ok seq =>
      simp only [Except.map, List.map_append]
      rfl

theorem addBlock_ids (added : store.addBlock block = .ok store') :
    store'.blockIds = store.blockIds ++ [block.id] := by
  cases store with
  | memory content =>
    cases added
    exact List.map_append
  | sql content =>
    rw [addBlock] at added
    cases seq : Sql.nextSeq ((content.blocks.filter (·.botId = block.botId)).map (·.seq)) with
    | error failure =>
      rw [seq] at added
      cases added
    | ok seq' =>
      rw [seq] at added
      cases added
      exact List.map_append

end Store

namespace Storage

theorem outcome_saveBlock (unused : block.id ∉ storage.store.blockIds) :
    outcome (saveBlock block) storage =
      if storage.refuses .saveBlock then (.error .storeDown, storage)
      else match storage.store.addBlock block with
        | .ok store => (.ok (), { storage with store })
        | .error failure => (.error failure, storage) := by
  rw [saveBlock, outcome_write]
  split
  · rfl
  · cases content : storage.store with
    | memory memory =>
      rw [content] at unused
      have absent : memory.blocks.find? (·.id = block.id) = none := by
        refine List.find?_eq_none.mpr fun old member same => unused ?_
        exact List.mem_map.mpr ⟨old, member, of_decide_eq_true same⟩
      have saved : memory.saveBlock block = { memory with blocks := memory.blocks ++ [block] } := by
        rw [Memory.saveBlock, Table.put_of_none absent]
      rw [written, saved, Store.addBlock]
    | sql sql =>
      rw [content] at unused
      have absent : ¬ sql.blocks.any (·.id = block.id) := by
        rw [List.any_eq_true]
        rintro ⟨old, member, same⟩
        exact unused (List.mem_map.mpr ⟨old, member, of_decide_eq_true same⟩)
      rw [written, Sql.saveBlock, if_neg absent, Store.addBlock]
      cases Sql.nextSeq ((sql.blocks.filter (·.botId = block.botId)).map (·.seq)) <;> rfl

theorem saveBlock_adds (unused : block.id ∉ storage.store.blockIds) {answer : Unit}
    (run : outcome (saveBlock block) storage = (.ok answer, reached)) :
    ∃ store, storage.store.addBlock block = .ok store ∧ reached = { storage with store } := by
  rw [outcome_saveBlock unused] at run
  split at run
  · cases run
  · cases added : storage.store.addBlock block with
    | error failure =>
      rw [added] at run
      cases run
    | ok store =>
      rw [added] at run
      cases run
      exact ⟨store, rfl, rfl⟩

theorem AlikeBut.saveBlock (alike : AlikeBut parts storage other) (seen : .blocks ∉ parts)
    (twins : block'.nameless = block.nameless) (unused : block.id ∉ storage.store.blockIds)
    (unused' : block'.id ∉ other.store.blockIds) :
    Coincide (AlikeBut parts) (fun ended ended' => AlikeBut parts ended.2 ended'.2)
      (outcome (Storage.saveBlock block) storage) (outcome (Storage.saveBlock block') other) := by
  have added : (storage.store.addBlock block).map (·.nameless.blank parts) =
      (other.store.addBlock block').map (·.nameless.blank parts) := by
    have stores := congrArg (fun blanked : Storage => blanked.store.addBlock block.nameless) alike
    have shown (block : Block) (storage : Storage) :
        ((storage.nameless.blank parts).store.addBlock block.nameless) =
          (storage.store.addBlock block).map (·.nameless.blank parts) := by
      have blanked : (storage.nameless.blank parts).store = storage.store.nameless.blank parts := rfl
      rw [blanked, Store.addBlock_blank seen, Store.addBlock_nameless]
      cases storage.store.addBlock block <;> rfl
    rw [← shown, ← shown, twins]
    exact stores
  rw [outcome_saveBlock unused, outcome_saveBlock unused', alike.same.refuses .saveBlock]
  split
  · exact .error alike
  · cases done : storage.store.addBlock block with
    | error failure =>
      rw [done] at added
      cases done' : other.store.addBlock block' with
      | error failure' =>
        rw [done'] at added
        cases added
        exact .error alike
      | ok store' =>
        rw [done'] at added
        cases added
    | ok store =>
      rw [done] at added
      cases done' : other.store.addBlock block' with
      | error failure' =>
        rw [done'] at added
        cases added
      | ok store' =>
        rw [done'] at added
        exact .ok (SameBut.setStore alike (Except.ok.inj added))

end Storage

end Parley
