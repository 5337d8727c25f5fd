import Parley.Proofs.Storage.Tables
import Parley.Store.Sql

/-!
Tables that hold the records of several owners: what storing or changing a record does to the records
of one owner, and to what an owner finds.
-/

namespace Parley

namespace Table

variable {α : Type}

/-! ### Selections -/

section

variable {replaces keeps : α → Bool} {record : α} {table : List α}

theorem filter_put_out (out : keeps record = false)
    (replaced : ∀ old, table.find? replaces = some old → keeps old = false) :
    (put replaces record table).filter keeps = table.filter keeps := by
  induction table with
  | nil => simp [put, out]
  | cons old rest ih =>
    by_cases h : replaces old
    · have gone := replaced old (List.find?_cons_of_pos h)
      simp [put, h, out, gone]
    · rw [List.find?_cons_of_neg h] at replaced
      simp only [put, h, Bool.false_eq_true, if_false, List.filter_cons, ih replaced]

theorem filter_put_in (kept : keeps record) (owned : ∀ old ∈ table, replaces old → keeps old) :
    (put replaces record table).filter keeps = put replaces record (table.filter keeps) := by
  induction table with
  | nil => simp [put, kept]
  | cons old rest ih =>
    have later := ih fun old member => owned old (List.mem_cons_of_mem _ member)
    by_cases h : replaces old
    · simp [put, h, kept, owned old List.mem_cons_self h]
    · by_cases k : keeps old <;> simp [put, h, k, later]

theorem filter_update_in {qualifies : α → Bool} {change : α → α}
    (owned : ∀ old ∈ table, qualifies old → keeps old ∧ keeps (change old)) :
    (update qualifies change table).filter keeps = update qualifies change (table.filter keeps) := by
  induction table with
  | nil => rfl
  | cons old rest ih =>
    have later := ih fun old member => owned old (List.mem_cons_of_mem _ member)
    by_cases h : qualifies old
    · obtain ⟨before, after⟩ := owned old List.mem_cons_self h
      simp [update, h, before, after]
    · by_cases k : keeps old <;> simp [update, h, k, later]

theorem filter_update_out {qualifies : α → Bool} {change : α → α}
    (out : ∀ old ∈ table, qualifies old → keeps old = false ∧ keeps (change old) = false) :
    (update qualifies change table).filter keeps = table.filter keeps := by
  induction table with
  | nil => rfl
  | cons old rest ih =>
    have later := ih fun old member => out old (List.mem_cons_of_mem _ member)
    by_cases h : qualifies old
    · obtain ⟨before, after⟩ := out old List.mem_cons_self h
      simp [update, h, before, after]
    · by_cases k : keeps old <;> simp [update, h, k, later]

theorem filter_filter_in {wanted : α → Bool}
    (owned : ∀ record ∈ table, wanted record → keeps record) :
    (table.filter keeps).filter wanted = table.filter wanted := by
  rw [List.filter_filter]
  apply List.filter_congr
  intro record member
  cases h : wanted record
  · rfl
  · rw [owned record member h, Bool.and_self]

theorem find?_filter_in {wanted : α → Bool}
    (owned : ∀ record ∈ table, wanted record → keeps record) :
    (table.filter keeps).find? wanted = table.find? wanted := by
  rw [← List.head?_filter, ← List.head?_filter, filter_filter_in owned]

theorem any_filter_in {wanted : α → Bool}
    (owned : ∀ record ∈ table, wanted record → keeps record) :
    (table.filter keeps).any wanted = table.any wanted := by
  rw [Bool.eq_iff_iff, List.any_eq_true, List.any_eq_true]
  constructor
  · rintro ⟨record, member, hit⟩
    exact ⟨record, (List.mem_filter.mp member).1, hit⟩
  · rintro ⟨record, member, hit⟩
    exact ⟨record, List.mem_filter.mpr ⟨member, owned record member hit⟩, hit⟩

end

/-- Changing the first record that qualifies, or adding a changed one if there is none, is storing one
record. -/
theorem put_getD (qualifies : α → Bool) (change : α → α) (fresh : α) (table : List α) :
    put qualifies (change ((table.find? qualifies).getD fresh)) table =
      if table.any qualifies then update qualifies change table else table ++ [change fresh] := by
  cases first : table.find? qualifies with
  | some old =>
    have hit : table.any qualifies :=
      List.any_eq_true.mpr ⟨old, List.mem_of_find?_eq_some first, List.find?_some first⟩
    rw [if_pos hit, Option.getD, put_eq_update first]
  | none =>
    have missed : ¬ table.any qualifies := by
      intro hit
      obtain ⟨old, member, qualified⟩ := List.any_eq_true.mp hit
      exact List.find?_eq_none.mp first old member qualified
    rw [if_neg missed, Option.getD, put_of_none first]

theorem key_getD (key : α → String) {id : String} {fresh : α} (named : key fresh = id)
    (table : List α) : key ((table.find? (key · = id)).getD fresh) = id := by
  cases first : table.find? (key · = id) with
  | none => exact named
  | some old =>
    have hit := List.find?_some first
    exact of_decide_eq_true hit

theorem find?_put_getD (key : α → String) (change : α → α) {id : String} {fresh : α}
    (named : key fresh = id) (keeps : ∀ record, key (change record) = key record) (table : List α) :
    (put (key · = id) (change ((table.find? (key · = id)).getD fresh)) table).find? (key · = id) =
      some (change ((table.find? (key · = id)).getD fresh)) := by
  apply find?_put_same
  rw [keeps, key_getD key named, decide_eq_true rfl]

/-! ### What an owner finds -/

/-- An owner finds the same in two tables: its records in the same order, and under a key the same
record or none. -/
structure ShowsSame (key owner : α → String) (botId : String) (table reached : List α) : Prop where
  listed : reached.filter (owner · = botId) = table.filter (owner · = botId)
  found : ∀ id, (reached.find? (key · = id)).filter (owner · = botId) =
    (table.find? (key · = id)).filter (owner · = botId)

namespace ShowsSame

variable {key owner : α → String} {botId : String} {table : List α}

theorem refl (key owner : α → String) (botId : String) (table : List α) :
    ShowsSame key owner botId table table := ⟨rfl, fun _ => rfl⟩

/-- An owner does not see a record stored in place of one that is not its own either. -/
theorem put {id : String} {record : α} (named : key record = id) (other : owner record ≠ botId)
    (replaced : ∀ old, table.find? (key · = id) = some old → owner old ≠ botId) :
    ShowsSame key owner botId table (Table.put (key · = id) record table) where
  listed := filter_put_out (decide_eq_false other) fun old first =>
    decide_eq_false (replaced old first)
  found asked := by
    by_cases same : id = asked
    · subst same
      have stored : (Table.put (key · = id) record table).find? (key · = id) = some record :=
        find?_put_same (by simpa using named) table
      rw [stored, Option.filter_some_neg (by simpa using other)]
      cases first : table.find? (key · = id) with
      | none => rfl
      | some old => rw [Option.filter_some_neg (by simpa using replaced old first)]
    · -- neither the new record nor the one that it replaces has the key that is asked for
      have untouched : (Table.put (key · = id) record table).filter (key · = asked) =
          table.filter (key · = asked) := by
        apply filter_put_out (by simpa [named] using same)
        intro old first
        have hit := List.find?_some first
        simp only [decide_eq_true_eq] at hit
        simpa [hit] using same
      rw [← List.head?_filter, ← List.head?_filter, untouched]

/-- An owner does not see a change of a record that is not its own, nor a record that is added for
another one. -/
theorem write {id : String} {change : α → α} {fresh : α} (named : key fresh = id)
    (keeps : ∀ record, key (change record) = key record ∧ owner (change record) = owner record)
    (other : owner fresh ≠ botId)
    (changed : ∀ old, table.find? (key · = id) = some old → owner old ≠ botId) :
    ShowsSame key owner botId table
      (Table.put (key · = id) (change ((table.find? (key · = id)).getD fresh)) table) := by
  obtain ⟨sameKey, sameOwner⟩ := keeps ((table.find? (key · = id)).getD fresh)
  refine put (sameKey.trans (key_getD key named table)) ?_ changed
  rw [sameOwner]
  cases first : table.find? (key · = id) with
  | none => exact other
  | some old => exact changed old first

end ShowsSame

end Table

/-! ### Rows of content -/

def BlockRow.place (row : BlockRow) : String × Cell := (row.botId, row.seq)

def FlowRow.place (row : FlowRow) : String × Cell := (row.botId, row.seq)

namespace Table

variable {ρ : Type}

/-- How a row is saved: the first one that qualifies is changed, or else a new one of a bot is added. -/
def saveRow (p : ρ → Bool) (place : ρ → String × Cell) (write : ρ → ρ) (botId : String)
    (fresh : Cell → ρ) (rows : List ρ) : Except Failure (List ρ) :=
  if rows.any p then .ok (update p write rows)
  else (Sql.nextSeq ((rows.filter fun row => (place row).1 = botId).map fun row => (place row).2)).map
    fun seq => rows ++ [write (fresh seq)]

theorem saveRow_map {β : Type} (p : ρ → Bool) (place : ρ → String × Cell) (write : ρ → ρ)
    (botId : String) (fresh : Cell → ρ) (rows : List ρ) (fill : List ρ → β) :
    (saveRow p place write botId fresh rows).map fill =
      (if rows.any p then .ok (.int 0) else Sql.nextSeq
        ((rows.filter fun row => (place row).1 = botId).map fun row => (place row).2)).map fun seq =>
      fill (put p (write ((rows.find? p).getD (fresh seq))) rows) := by
  simp only [saveRow, put_getD]
  split
  · rfl
  · cases Sql.nextSeq ((rows.filter fun row => (place row).1 = botId).map fun row => (place row).2) <;>
      rfl

end Table

theorem Sql.saveBlock_rows (block : Block) (sql : Sql) :
    sql.saveBlock block =
      (Table.saveRow (·.id = block.id) BlockRow.place (BlockRow.write block) block.botId
        (fun seq => { id := block.id, seq, botId := block.botId, createdAt := block.createdAt })
        sql.blocks).map fun blocks => { sql with blocks } := by
  rw [saveBlock, Table.saveRow]
  split
  · rfl
  · change _ = ((Sql.nextSeq ((sql.blocks.filter (·.botId = block.botId)).map (·.seq))).map _).map _
    cases nextSeq ((sql.blocks.filter (·.botId = block.botId)).map (·.seq)) <;> rfl

theorem Sql.saveFlow_rows (flow : Flow) (sql : Sql) :
    sql.saveFlow flow =
      (Table.saveRow (·.id = flow.id) FlowRow.place (FlowRow.write flow) flow.botId
        (fun seq => { id := flow.id, seq, botId := flow.botId, createdAt := flow.createdAt })
        sql.flows).map fun flows => { sql with flows } := by
  rw [saveFlow, Table.saveRow]
  split
  · rfl
  · change _ = ((Sql.nextSeq ((sql.flows.filter (·.botId = flow.botId)).map (·.seq))).map _).map _
    cases nextSeq ((sql.flows.filter (·.botId = flow.botId)).map (·.seq)) <;> rfl

theorem Sql.saveBlock_eq (block : Block) (sql : Sql) :
    sql.saveBlock block =
      (if sql.blocks.any (·.id = block.id) then .ok (.int 0)
        else nextSeq ((sql.blocks.filter (·.botId = block.botId)).map (·.seq))).map fun seq =>
      { sql with blocks := Table.put (·.id = block.id) (BlockRow.write block
        ((sql.blocks.find? (·.id = block.id)).getD
          { id := block.id, seq, botId := block.botId, createdAt := block.createdAt })) sql.blocks } := by
  rw [saveBlock_rows]
  exact Table.saveRow_map ..

theorem Sql.saveFlow_eq (flow : Flow) (sql : Sql) :
    sql.saveFlow flow =
      (if sql.flows.any (·.id = flow.id) then .ok (.int 0)
        else nextSeq ((sql.flows.filter (·.botId = flow.botId)).map (·.seq))).map fun seq =>
      { sql with flows := Table.put (·.id = flow.id) (FlowRow.write flow
        ((sql.flows.find? (·.id = flow.id)).getD
          { id := flow.id, seq, botId := flow.botId, createdAt := flow.createdAt })) sql.flows } := by
  rw [saveFlow_rows]
  exact Table.saveRow_map ..

end Parley
