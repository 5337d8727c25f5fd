import Parley.Proofs.Storage.Histories
import Parley.Proofs.Storage.Listings
import Parley.Proofs.Storage.Mirrors
import Parley.Proofs.Storage.Saving

/-!
The blocks and flows of a store told by all that was ever saved in it: in memory the latest content under
each id, in the order in which the ids were saved first, and in a database rows that hold it.
-/

namespace Parley

open Table (stored stored_snoc mem_of_mem_stored stored_tells Beside Picks)

section

variable {sql reached : Sql}

theorem Sql.saveBlock_beside {block : Block} {records : List Block}
    (beside : Beside BlockRow.Holds BlockRow.place sql.blocks records)
    (owned : ∀ old ∈ records, old.id = block.id → old.botId = block.botId)
    (saved : sql.saveBlock block = .ok reached) :
    Beside BlockRow.Holds BlockRow.place reached.blocks
      (Table.put (·.id = block.id) block records) ∧ reached.flows = sql.flows := by
  rw [Sql.saveBlock_rows] at saved
  generalize placed : Table.saveRow _ _ _ _ _ _ = rows at saved
  cases rows with
  | error failure => cases saved
  | ok rows =>
    cases saved
    refine ⟨beside.save placed (fun row old holds => by rw [holds.same.1]) ?_ (fun _ => rfl)
      fun seq => ⟨⟨seq, block.createdAt, rfl⟩, rfl⟩, rfl⟩
    intro row old member holds same
    have id := of_decide_eq_true same
    exact holds.write id (owned old member id)

theorem Sql.saveFlow_beside {flow : Flow} {records : List Flow}
    (beside : Beside FlowRow.Holds FlowRow.place sql.flows records)
    (owned : ∀ old ∈ records, old.id = flow.id → old.botId = flow.botId)
    (saved : sql.saveFlow flow = .ok reached) :
    Beside FlowRow.Holds FlowRow.place reached.flows
      (Table.put (·.id = flow.id) flow records) ∧ reached.blocks = sql.blocks := by
  rw [Sql.saveFlow_rows] at saved
  generalize placed : Table.saveRow _ _ _ _ _ _ = rows at saved
  cases rows with
  | error failure => cases saved
  | ok rows =>
    cases saved
    refine ⟨beside.save placed (fun row old holds => by rw [holds.same.1]) ?_ (fun _ => rfl)
      fun seq => ⟨⟨seq, flow.createdAt, rfl⟩, rfl⟩, rfl⟩
    intro row old member holds same
    have id := of_decide_eq_true same
    exact holds.write id (owned old member id)

end

/-- A search finds the earliest record also in a list that shows only what is kept of a table. -/
theorem Table.Tells.picks {α β : Type} {key : α → String} {saves table listed : List α}
    (tells : Tells key saves table) {shown : α → β} {keeps wanted : α → Bool} {qualifies : α → Prop}
    (same : listed.map shown = (table.filter keeps).map shown)
    (sees : ∀ record other, shown record = shown other → wanted record = wanted other)
    (means : ∀ record, (keeps record && wanted record) = true ↔ qualifies record) :
    Picks shown key saves qualifies (listed.find? wanted) := by
  have parallel : List.Forall₂ (fun record other => shown record = shown other) listed
      (table.filter keeps) := by
    rw [← List.forall₂_map_right_iff, ← List.forall₂_map_left_iff, List.forall₂_eq_eq_eq]
    exact same
  have found := find?_parallel parallel sees
  have picked := tells.find? means
  simp only [List.find?_filter, Bool.decide_and, Bool.decide_eq_true] at found
  rcases found_cases found with ⟨miss, miss'⟩ | ⟨record, other, hit, hit', alike⟩
  · rw [miss'] at picked
    cases picked with
    | none missing => exact miss ▸ .none missing
  · rw [hit'] at picked
    cases picked with
    | some earliest equal => exact hit ▸ .some earliest (alike.trans (congrArg shown equal))

/-! ### One save -/

def Store.save : Content → Store → Except Failure Store
  | .block given, .memory held => .ok (.memory (held.saveBlock given))
  | .flow given, .memory held => .ok (.memory (held.saveFlow given))
  | .block given, .sql held => (held.saveBlock given).map .sql
  | .flow given, .sql held => (held.saveFlow given).map .sql

theorem Storage.Works.save {storage : Storage} (works : storage.Works) (content : Content) :
    outcome content.save storage =
      match storage.store.save content with
      | .ok store => (.ok (), { storage with store })
      | .error failure => (.error failure, storage) := by
  cases content with
  | block given =>
    rw [Content.save, saveBlock, outcome_write, works.refuses, if_neg Bool.false_ne_true]
    cases storage.store <;> rfl
  | flow given =>
    rw [Content.save, saveFlow, outcome_write, works.refuses, if_neg Bool.false_ne_true]
    cases storage.store <;> rfl

/-! ### Histories of saves -/

namespace Content

def block? : Content → Option Block
  | .block given => some given
  | .flow _ => none

def flow? : Content → Option Flow
  | .block _ => none
  | .flow given => some given

def blocks (history : List Content) : List Block := history.filterMap block?

def flows (history : List Content) : List Flow := history.filterMap flow?

def saveAll (history : List Content) : StoreM Unit := history.forM save

/-- Later content has the id of earlier content only if both are of one bot. -/
def Agrees : Content → Content → Prop
  | .block given, .block later => given.id = later.id → given.botId = later.botId
  | .flow given, .flow later => given.id = later.id → given.botId = later.botId
  | _, _ => True

variable {past : List Content}

theorem blocks_snoc_block (past : List Content) (given : Block) :
    blocks (past ++ [.block given]) = blocks past ++ [given] := by
  rw [blocks, List.filterMap_append]
  rfl

theorem blocks_snoc_flow (past : List Content) (given : Flow) :
    blocks (past ++ [.flow given]) = blocks past := by
  rw [blocks, List.filterMap_append]
  exact List.append_nil _

theorem flows_snoc_flow (past : List Content) (given : Flow) :
    flows (past ++ [.flow given]) = flows past ++ [given] := by
  rw [flows, List.filterMap_append]
  rfl

theorem flows_snoc_block (past : List Content) (given : Block) :
    flows (past ++ [.block given]) = flows past := by
  rw [flows, List.filterMap_append]
  exact List.append_nil _

theorem mem_blocks {block : Block} (saved : block ∈ blocks past) : .block block ∈ past := by
  obtain ⟨content, member, same⟩ := List.mem_filterMap.mp saved
  cases content <;> cases same
  exact member

theorem mem_flows {flow : Flow} (saved : flow ∈ flows past) : .flow flow ∈ past := by
  obtain ⟨content, member, same⟩ := List.mem_filterMap.mp saved
  cases content <;> cases same
  exact member

end Content

/-- A store holds what is left of all that was saved. -/
def Store.Keeps (history : List Content) : Store → Prop
  | .memory content => content.blocks = stored Block.id (Content.blocks history) ∧
    content.flows = stored Flow.id (Content.flows history)
  | .sql content =>
    Beside BlockRow.Holds BlockRow.place content.blocks (stored Block.id (Content.blocks history)) ∧
    Beside FlowRow.Holds FlowRow.place content.flows (stored Flow.id (Content.flows history))

def Store.Bare : Store → Prop
  | .memory content => content.blocks = [] ∧ content.flows = []
  | .sql content => content.blocks = [] ∧ content.flows = []

theorem Store.Bare.keeps {store : Store} (bare : store.Bare) : store.Keeps [] := by
  cases store with
  | memory content => exact bare
  | sql content =>
    obtain ⟨noBlocks, noFlows⟩ := bare
    rw [Keeps, noBlocks, noFlows]
    exact ⟨⟨.nil, .nil⟩, .nil, .nil⟩

namespace Store.Keeps

variable {store reached : Store} {past : List Content} {content : Content}

theorem save (keeps : store.Keeps past) (agree : ∀ earlier ∈ past, earlier.Agrees content)
    (saved : store.save content = .ok reached) : reached.Keeps (past ++ [content]) := by
  cases content with
  | block given =>
    have owned : ∀ old ∈ stored Block.id (Content.blocks past), old.id = given.id →
        old.botId = given.botId :=
      fun old member => agree (.block old) (Content.mem_blocks (mem_of_mem_stored member))
    cases store with
    | memory memory =>
      cases saved
      rw [Keeps, Content.blocks_snoc_block, Content.flows_snoc_block, stored_snoc, ← keeps.1]
      exact ⟨rfl, keeps.2⟩
    | sql sql =>
      rw [Store.save] at saved
      cases done : sql.saveBlock given with
      | error failure =>
        rw [done] at saved
        cases saved
      | ok written =>
        rw [done] at saved
        cases saved
        obtain ⟨blocks, flows⟩ := Sql.saveBlock_beside keeps.1 owned done
        rw [Keeps, Content.blocks_snoc_block, Content.flows_snoc_block, stored_snoc, flows]
        exact ⟨blocks, keeps.2⟩
  | flow given =>
    have owned : ∀ old ∈ stored Flow.id (Content.flows past), old.id = given.id →
        old.botId = given.botId :=
      fun old member => agree (.flow old) (Content.mem_flows (mem_of_mem_stored member))
    cases store with
    | memory memory =>
      cases saved
      rw [Keeps, Content.blocks_snoc_flow, Content.flows_snoc_flow, stored_snoc, ← keeps.2]
      exact ⟨keeps.1, rfl⟩
    | sql sql =>
      rw [Store.save] at saved
      cases done : sql.saveFlow given with
      | error failure =>
        rw [done] at saved
        cases saved
      | ok written =>
        rw [done] at saved
        cases saved
        obtain ⟨flows, blocks⟩ := Sql.saveFlow_beside keeps.2 owned done
        rw [Keeps, Content.blocks_snoc_flow, Content.flows_snoc_flow, stored_snoc, blocks]
        exact ⟨keeps.1, flows⟩

theorem goes (keeps : store.Keeps past) (few : past.length + 1 < Nat.pow 2 63) (content : Content) :
    ∃ reached, store.save content = .ok reached := by
  have few {α : Type} (key : α → String) (shown : Content → Option α) :
      (stored key (past.filterMap shown)).length + 1 < Nat.pow 2 63 := by
    have saved := Table.stored_length_le key (past.filterMap shown)
    have shorter := List.length_filterMap_le shown past
    omega
  cases store with
  | memory memory => cases content <;> exact ⟨_, rfl⟩
  | sql sql =>
    cases content with
    | block given =>
      obtain ⟨rows, placed⟩ := keeps.1.goes (few Block.id Content.block?)
      exact ⟨.sql { sql with blocks := rows }, by rw [Store.save, Sql.saveBlock_rows, placed]; rfl⟩
    | flow given =>
      obtain ⟨rows, placed⟩ := keeps.2.goes (few Flow.id Content.flow?)
      exact ⟨.sql { sql with flows := rows }, by rw [Store.save, Sql.saveFlow_rows, placed]; rfl⟩

/-! ### What is listed -/

theorem listBlocks (keeps : store.Keeps past) (botId : String) (enabledOnly : Bool) :
    (store.listBlocks botId enabledOnly).map (·.undated) =
      ((stored Block.id (Content.blocks past)).filter fun block =>
        block.botId = botId && (block.isEnabled || !enabledOnly)).map (·.undated) := by
  cases store with
  | memory memory => exact keeps.1 ▸ rfl
  | sql sql => exact Sql.listBlocks_parallel keeps.1.parallel keeps.1.numbered botId enabledOnly

theorem listFlows (keeps : store.Keeps past) (botId : String) (activeOnly : Bool) :
    (store.listFlows botId activeOnly).map (·.undated) =
      ((stored Flow.id (Content.flows past)).filter fun flow =>
        flow.botId = botId && (flow.isActive || !activeOnly)).map (·.undated) := by
  cases store with
  | memory memory => exact keeps.2 ▸ rfl
  | sql sql => exact Sql.listFlows_parallel keeps.2.parallel keeps.2.numbered botId activeOnly

theorem picks_block (keeps : store.Keeps past) (botId : String) (wanted : Block → Bool)
    (sees : ∀ block other, block.undated = other.undated → wanted block = wanted other) :
    Picks Block.undated Block.id (Content.blocks past)
      (fun block => block.botId = botId ∧ block.isEnabled ∧ wanted block)
      ((store.listBlocks botId true).find? wanted) :=
  (stored_tells Block.id (Content.blocks past)).picks (keeps.listBlocks botId true) sees
    fun block => by simp [and_assoc]

theorem picks_flow (keeps : store.Keeps past) (botId : String) (wanted : Flow → Bool)
    (sees : ∀ flow other, flow.undated = other.undated → wanted flow = wanted other) :
    Picks Flow.undated Flow.id (Content.flows past)
      (fun flow => flow.botId = botId ∧ flow.isActive ∧ wanted flow)
      ((store.listFlows botId true).find? wanted) :=
  (stored_tells Flow.id (Content.flows past)).picks (keeps.listFlows botId true) sees
    fun flow => by simp [and_assoc]

end Store.Keeps

/-! ### All saves -/

namespace Content

variable {storage reached : Storage} {past history : List Content}

theorem saveAll_cons (content : Content) (history : List Content) :
    saveAll (content :: history) = content.save >>= fun _ => saveAll history :=
  List.forM_cons

theorem saveAll_keeps (works : storage.Works) (keeps : storage.store.Keeps past)
    (agree : (past ++ history).Pairwise Agrees)
    (run : outcome (saveAll history) storage = (.ok (), reached)) :
    reached.Works ∧ reached.store.Keeps (past ++ history) := by
  induction history generalizing past storage with
  | nil =>
    cases run
    rw [List.append_nil]
    exact ⟨works, keeps⟩
  | cons content history ih =>
    -- what is saved moves from the history that is left into the past
    have earlier : ∀ earlier ∈ past, earlier.Agrees content := fun earlier member =>
      (List.pairwise_append.mp agree).2.2 earlier member content List.mem_cons_self
    rw [saveAll_cons] at run
    obtain ⟨_, between, first, rest⟩ := outcome_bind_ok run
    rw [works.save] at first
    cases saved : storage.store.save content with
    | error failure =>
      rw [saved] at first
      cases first
    | ok store =>
      rw [saved] at first
      cases first
      have works : ({ storage with store } : Storage).Works := ⟨works.whole, works.up⟩
      rw [List.append_cons] at agree ⊢
      exact ih works (keeps.save earlier saved) agree rest

theorem saveAll_goes (works : storage.Works) (keeps : storage.store.Keeps past)
    (agree : (past ++ history).Pairwise Agrees) (few : (past ++ history).length < Nat.pow 2 63) :
    ∃ reached, outcome (saveAll history) storage = (.ok (), reached) := by
  induction history generalizing past storage with
  | nil => exact ⟨storage, rfl⟩
  | cons content history ih =>
    have earlier : ∀ earlier ∈ past, earlier.Agrees content := fun earlier member =>
      (List.pairwise_append.mp agree).2.2 earlier member content List.mem_cons_self
    have room : past.length + 1 < Nat.pow 2 63 := by
      rw [List.length_append, List.length_cons] at few
      omega
    obtain ⟨store, saved⟩ := keeps.goes room content
    have first : outcome content.save storage = (.ok (), { storage with store }) := by
      rw [works.save, saved]
    rw [List.append_cons] at agree few
    have works : ({ storage with store } : Storage).Works := ⟨works.whole, works.up⟩
    obtain ⟨reached, rest⟩ := ih works (keeps.save earlier saved) agree few
    exact ⟨reached, by rw [saveAll_cons, outcome_bind_of_ok first, rest]⟩

end Content

end Parley
