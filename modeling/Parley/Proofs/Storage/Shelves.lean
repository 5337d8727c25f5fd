import Parley.Proofs.Storage.Nameless
import Parley.Proofs.Storage.Parallel
import Parley.Proofs.Storage.RoundTrip

/-!
The blocks and flows of a store as they are listed. A new block is listed last among those of its bot,
whatever numbers the rows have, as long as there is a number for one more.
-/

namespace Parley

open Storage (Part SameBut)

/-! ### The order of rows -/

namespace Cell

theorem le_total (cell other : Cell) : (le cell other || le other cell) = true := by
  cases cell <;> cases other <;>
    simp only [le, Bool.or_eq_true, decide_eq_true_eq, Bool.true_or, Bool.or_true] <;>
    exact Std.Total.total _ _

theorem le_trans {cell middle other : Cell} (first : le cell middle = true)
    (second : le middle other = true) : le cell other = true := by
  cases cell <;> cases middle <;> cases other <;> simp only [le, decide_eq_true_eq] at first second ⊢
  all_goals first | contradiction | exact Trans.trans first second

theorem before_iff {cell other : Cell} {older : Bool} :
    before cell other older = true ↔
      le cell other = true ∧ (le other cell = true → older = true) := by
  rw [before, eq]
  cases le cell other <;> cases le other cell <;> simp

theorem before_total (cell other : Cell) (time later : Int) :
    (before cell other (time ≤ later) || before other cell (later ≤ time)) = true := by
  rw [Bool.or_eq_true, before_iff, before_iff]
  have sides := le_total cell other
  rw [Bool.or_eq_true] at sides
  have times := Int.le_total time later
  grind

theorem before_trans {cell middle other : Cell} {time between later : Int}
    (first : before cell middle (time ≤ between) = true)
    (second : before middle other (between ≤ later) = true) :
    before cell other (time ≤ later) = true := by
  rw [before_iff, decide_eq_true_eq] at first second ⊢
  refine ⟨le_trans first.1 second.1, fun back => ?_⟩
  have early := first.2 (le_trans second.1 back)
  have late := second.2 (le_trans back first.1)
  exact Int.le_trans early late

end Cell

theorem BlockRow.before_total (row other : BlockRow) :
    (row.before other || other.before row) = true := Cell.before_total ..

theorem BlockRow.before_trans (row middle other : BlockRow) (first : row.before middle = true)
    (second : middle.before other = true) : row.before other = true := Cell.before_trans first second

theorem FlowRow.before_total (row other : FlowRow) :
    (row.before other || other.before row) = true := Cell.before_total ..

theorem FlowRow.before_trans (row middle other : FlowRow) (first : row.before middle = true)
    (second : middle.before other = true) : row.before other = true := Cell.before_trans first second

namespace Table

theorem span_snoc {α : Type} {keeps : α → Bool} {last : α} (out : keeps last = false)
    (rows : List α) :
    (rows ++ [last]).takeWhile keeps = rows.takeWhile keeps ∧
      (rows ++ [last]).dropWhile keeps = rows.dropWhile keeps ++ [last] := by
  induction rows with
  | nil => simp [out]
  | cons first rest ih => cases h : keeps first <;> simp [h, ih]

variable {α : Type} {le : α → α → Bool} (trans : ∀ a b c, le a b = true → le b c = true → le a c = true)
  (total : ∀ a b, (le a b || le b a) = true)

include trans total

theorem mergeSort_cons_eq (first : α) (rest : List α) :
    (first :: rest).mergeSort le =
      (rest.mergeSort le).takeWhile (!le first ·) ++
        first :: (rest.mergeSort le).dropWhile (!le first ·) := by
  obtain ⟨front, back, sorted, parts, before⟩ := List.mergeSort_cons trans total first rest
  have ordered := List.pairwise_mergeSort trans total (first :: rest)
  rw [sorted, List.pairwise_append, List.pairwise_cons] at ordered
  have after : back.takeWhile (!le first ·) = [] ∧ back.dropWhile (!le first ·) = back := by
    cases back with
    | nil => exact ⟨rfl, rfl⟩
    | cons next _ =>
      have precedes := ordered.2.1.1 next List.mem_cons_self
      simp [precedes]
  rw [sorted, parts, List.takeWhile_append_of_pos before, List.dropWhile_append_of_pos before,
    after.1, after.2, List.append_nil]

theorem mergeSort_snoc {rows : List α} {last : α} (above : ∀ row ∈ rows, le row last = true) :
    (rows ++ [last]).mergeSort le = rows.mergeSort le ++ [last] := by
  induction rows with
  | nil => simp
  | cons first rest ih =>
    have later := ih fun row member => above row (List.mem_cons_of_mem _ member)
    have precedes : (!le first last) = false := by rw [above first List.mem_cons_self]; rfl
    obtain ⟨front, back⟩ := @span_snoc α (!le first ·) last precedes (rest.mergeSort le)
    rw [List.cons_append, mergeSort_cons_eq trans total, mergeSort_cons_eq trans total, later, front,
      back, List.append_assoc, List.cons_append]

end Table

/-! ### The next number -/

/-- Integers of 64 bits below a limit. -/
def Cell.Whole (limit : Int) (cell : Cell) : Prop :=
  ∃ n : Int, cell = .int n ∧ -Nat.pow 2 63 ≤ n ∧ n < limit

theorem Cell.Whole.mono {limit more : Int} {cell : Cell} (whole : cell.Whole limit)
    (less : limit ≤ more) : cell.Whole more := by
  obtain ⟨n, rfl, low, high⟩ := whole
  exact ⟨n, rfl, low, Int.lt_of_lt_of_le high less⟩

theorem Cell.greatest?_whole {limit : Int} {cells : List Cell}
    (whole : ∀ cell ∈ cells, cell.Whole limit) :
    cells = [] ∨ ∃ last, greatest? cells = some last ∧ last.Whole limit ∧
      ∀ cell ∈ cells, le cell last = true := by
  induction cells with
  | nil => exact .inl rfl
  | cons cell rest ih =>
    have mine := whole cell List.mem_cons_self
    rcases ih fun cell member => whole cell (List.mem_cons_of_mem _ member) with
      rfl | ⟨last, greatest, within, above⟩
    · refine .inr ⟨cell, rfl, mine, fun other member => ?_⟩
      rw [List.mem_singleton.mp member]
      simpa using le_total cell cell
    · have sides := le_total cell last
      rw [Bool.or_eq_true] at sides
      refine .inr ⟨if le last cell then cell else last, by rw [greatest?, greatest], ?_, ?_⟩
      · split
        · exact mine
        · exact within
      · intro other member
        split
        · rename_i higher
          rcases List.mem_cons.mp member with rfl | later
          · simpa using le_total other other
          · exact le_trans (above other later) higher
        · rename_i lower
          rcases List.mem_cons.mp member with rfl | later
          · exact sides.resolve_right lower
          · exact above other later

/-- Where all numbers are integers with room above, the next one is above all of them. -/
theorem Sql.nextSeq_above {limit : Int} {seqs : List Cell} (positive : 0 < limit)
    (room : limit < Nat.pow 2 63) (whole : ∀ seq ∈ seqs, seq.Whole limit) :
    ∃ next : Cell, nextSeq seqs = .ok next ∧ next.Whole (limit + 1) ∧
      ∀ seq ∈ seqs, Cell.le seq next = true ∧ Cell.le next seq = false := by
  have counted {last : Int} (low : -Nat.pow 2 63 ≤ last) (high : last < limit)
      (greatest : (Cell.greatest? seqs).getD (.int 0) = .int last) :
      nextSeq seqs = .ok (.int (last + 1)) := by
    have short : Cell.isLong (last + 1) = false := by
      simp only [Cell.isLong, Bool.or_eq_false_iff, decide_eq_false_iff_not]
      omega
    rw [nextSeq, greatest]
    change (if Cell.isLong (last + 1) then _ else _) = _
    rw [short]
    rfl
  rcases Cell.greatest?_whole whole with rfl | ⟨_, greatest, ⟨last, rfl, low, high⟩, above⟩
  · exact ⟨_, counted (by decide) positive rfl, ⟨1, rfl, by decide, by omega⟩,
      fun seq member => absurd member List.not_mem_nil⟩
  · refine ⟨_, counted low high (by rw [greatest]; rfl), ⟨last + 1, rfl, by omega, by omega⟩, ?_⟩
    intro seq member
    have under := above seq member
    obtain ⟨n, rfl, _⟩ := whole seq member
    rw [Cell.le_int, decide_eq_true_iff] at under
    rw [Cell.le_int, Cell.le_int]
    exact ⟨decide_eq_true (by omega), decide_eq_false (by omega)⟩

/-! ### What is listed -/

def Store.listBlocks (botId : String) (enabledOnly : Bool) : Store → List Block
  | .memory content => content.listBlocks botId enabledOnly
  | .sql content => content.listBlocks botId enabledOnly

def Store.listFlows (botId : String) (activeOnly : Bool) : Store → List Flow
  | .memory content => content.listFlows botId activeOnly
  | .sql content => content.listFlows botId activeOnly

/-- There are numbers for some more blocks of a bot. -/
def Store.Roomy (botId : String) (count : Nat) : Store → Prop
  | .memory _ => True
  | .sql content => count < Nat.pow 2 63 ∧
    ∀ row ∈ content.blocks, row.botId = botId → row.seq.Whole (Nat.pow 2 63 - count)

namespace Store

variable {parts : List Part} {store store' : Store} {block : Block} {botId : String} {count : Nat}

theorem listBlocks_blank (seen : .blocks ∉ parts) (botId : String) (enabledOnly : Bool)
    (store : Store) :
    (store.blank parts).listBlocks botId enabledOnly = store.listBlocks botId enabledOnly := by
  cases store <;>
    simp [blank, listBlocks, Memory.blank, Sql.blank, Memory.listBlocks, Sql.listBlocks,
      Sql.blockRows, seen]

theorem listFlows_blank (seen : .flows ∉ parts) (botId : String) (activeOnly : Bool)
    (store : Store) :
    (store.blank parts).listFlows botId activeOnly = store.listFlows botId activeOnly := by
  cases store <;>
    simp [blank, listFlows, Memory.blank, Sql.blank, Memory.listFlows, Sql.listFlows,
      Sql.flowRows, seen]

theorem Roomy.blank (seen : .blocks ∉ parts) :
    (store.blank parts).Roomy botId count ↔ store.Roomy botId count := by
  cases store <;> simp [Store.blank, Roomy, Sql.blank, seen]

end Store

def Block.toRow (seq : Cell) (block : Block) : BlockRow :=
  BlockRow.write block { id := block.id, seq, botId := block.botId, createdAt := block.createdAt }

theorem Block.toRow_toBlock (seq : Cell) (block : Block) : (block.toRow seq).toBlock = .ok block :=
  BlockRow.toBlock_write block _

namespace Store

variable {store store' : Store} {block : Block} {botId : String} {count : Nat}

theorem addBlock_sql {sql : Sql} (added : (Store.sql sql).addBlock block = .ok store') :
    ∃ seq, Sql.nextSeq ((sql.blocks.filter (·.botId = block.botId)).map (·.seq)) = .ok seq ∧
      store' = .sql { sql with blocks := sql.blocks ++ [block.toRow seq] } := by
  rw [addBlock] at added
  cases next : Sql.nextSeq ((sql.blocks.filter (·.botId = block.botId)).map (·.seq)) with
  | error failure =>
    rw [next] at added
    cases added
  | ok seq =>
    rw [next] at added
    cases added
    exact ⟨seq, rfl, rfl⟩

theorem Roomy.mono {fewer : Nat} (roomy : store.Roomy botId count) (less : fewer ≤ count) :
    store.Roomy botId fewer := by
  cases store with
  | memory content => trivial
  | sql sql =>
    obtain ⟨small, whole⟩ := roomy
    exact ⟨by omega, fun row member mine => (whole row member mine).mono (by omega)⟩

theorem Roomy.nextSeq {sql : Sql} (roomy : (Store.sql sql).Roomy botId (count + 1)) :
    ∃ next : Cell, Sql.nextSeq ((sql.blocks.filter (·.botId = botId)).map (·.seq)) = .ok next ∧
      next.Whole (Nat.pow 2 63 - count) ∧
      ∀ row ∈ sql.blocks, row.botId = botId →
        Cell.le row.seq next = true ∧ Cell.le next row.seq = false := by
  obtain ⟨small, whole⟩ := roomy
  have own : ∀ seq ∈ (sql.blocks.filter (·.botId = botId)).map (·.seq),
      seq.Whole (Nat.pow 2 63 - (count + 1 : Nat)) := by
    intro seq member
    obtain ⟨row, kept, rfl⟩ := List.mem_map.mp member
    obtain ⟨held, mine⟩ := List.mem_filter.mp kept
    exact whole row held (of_decide_eq_true mine)
  obtain ⟨next, found, within, above⟩ := Sql.nextSeq_above (by omega) (by omega) own
  refine ⟨next, found, within.mono (by omega), fun row member mine => ?_⟩
  exact above _ (List.mem_map.mpr ⟨row, List.mem_filter.mpr ⟨member, decide_eq_true mine⟩, rfl⟩)

theorem Roomy.addBlock (roomy : store.Roomy block.botId (count + 1)) :
    ∃ store', store.addBlock block = .ok store' ∧ store'.Roomy block.botId count := by
  cases store with
  | memory content => exact ⟨_, rfl, trivial⟩
  | sql sql =>
    obtain ⟨next, found, within, _⟩ := roomy.nextSeq
    obtain ⟨small, whole⟩ := roomy
    refine ⟨.sql { sql with blocks := sql.blocks ++ [block.toRow next] }, ?_, by omega, ?_⟩
    · rw [Store.addBlock, found]
      rfl
    · intro row member mine
      rcases List.mem_append.mp member with old | new
      · exact (whole row old mine).mono (by omega)
      · rw [List.mem_singleton.mp new]
        exact within

theorem addBlock_roomy (added : store.addBlock block = .ok store') (apart : block.botId ≠ botId)
    (roomy : store.Roomy botId count) : store'.Roomy botId count := by
  cases store with
  | memory content =>
    cases added
    trivial
  | sql sql =>
    obtain ⟨seq, _, rfl⟩ := addBlock_sql added
    obtain ⟨small, whole⟩ := roomy
    refine ⟨small, fun row member mine => ?_⟩
    rcases List.mem_append.mp member with old | new
    · exact whole row old mine
    · rw [List.mem_singleton.mp new] at mine
      exact absurd mine apart

theorem addBlock_listFlows (added : store.addBlock block = .ok store') (botId : String)
    (activeOnly : Bool) : store'.listFlows botId activeOnly = store.listFlows botId activeOnly := by
  cases store with
  | memory content =>
    cases added
    rfl
  | sql sql =>
    obtain ⟨seq, _, rfl⟩ := addBlock_sql added
    rfl

theorem addBlock_listBlocks (added : store.addBlock block = .ok store')
    (roomy : store.Roomy block.botId 1) (enabled : block.isEnabled = true) (botId : String)
    (enabledOnly : Bool) :
    store'.listBlocks botId enabledOnly =
      store.listBlocks botId enabledOnly ++ if block.botId = botId then [block] else [] := by
  cases store with
  | memory content =>
    cases added
    rw [listBlocks, listBlocks, Memory.listBlocks, Memory.listBlocks, List.filter_append,
      List.filter_singleton]
    by_cases mine : block.botId = botId <;> simp [mine, enabled]
  | sql sql =>
    obtain ⟨seq, found, rfl⟩ := addBlock_sql added
    obtain ⟨next, found', _, above⟩ := roomy.nextSeq
    cases found.symm.trans found'
    have rows : Sql.blockRows botId { sql with blocks := sql.blocks ++ [block.toRow seq] } =
        sql.blockRows botId ++ if block.botId = botId then [block.toRow seq] else [] := by
      have owner : (block.toRow seq).botId = block.botId := rfl
      rw [Sql.blockRows, Sql.blockRows, List.filter_append, List.filter_singleton, owner]
      by_cases mine : block.botId = botId
      · rw [decide_eq_true mine, if_pos mine, cond_true]
        refine Table.mergeSort_snoc BlockRow.before_trans BlockRow.before_total fun row member => ?_
        obtain ⟨member, same⟩ := List.mem_filter.mp member
        obtain ⟨under, past⟩ := above row member ((of_decide_eq_true same).trans mine.symm)
        exact Cell.before_iff.mpr ⟨under, fun back => absurd (past.symm.trans back) (by decide)⟩
      · rw [decide_eq_false mine, if_neg mine, cond_false, List.append_nil, List.append_nil]
    have shown : (block.toRow seq).isEnabled = true := enabled
    rw [listBlocks, listBlocks, Sql.listBlocks, Sql.listBlocks, rows]
    by_cases mine : block.botId = botId
    · rw [if_pos mine, if_pos mine, List.filter_append, List.filter_singleton, shown, Bool.true_or,
        cond_true, List.map_append, List.map_singleton, Block.toRow_toBlock, validOnly,
        List.filterMap_append]
      rfl
    · rw [if_neg mine, if_neg mine, List.append_nil, List.append_nil]

def addBlocks (blocks : List Block) (store : Store) : Except Failure Store :=
  blocks.foldlM (fun store block => store.addBlock block) store

theorem addBlocks_cons {blocks : List Block} (added : store.addBlocks (block :: blocks) = .ok store') :
    ∃ middle, store.addBlock block = .ok middle ∧ middle.addBlocks blocks = .ok store' := by
  rw [addBlocks, List.foldlM_cons] at added
  cases first : store.addBlock block with
  | error failure =>
    rw [first] at added
    cases added
  | ok middle =>
    rw [first] at added
    exact ⟨middle, rfl, added⟩

theorem addBlocks_append {blocks more : List Block} {middle : Store}
    (first : store.addBlocks blocks = .ok middle) (second : middle.addBlocks more = .ok store') :
    store.addBlocks (blocks ++ more) = .ok store' := by
  rw [addBlocks] at first ⊢
  rw [List.foldlM_append, first]
  exact second

theorem addBlocks_blank {parts : List Part} (seen : .blocks ∉ parts) {blocks : List Block}
    (added : store.addBlocks blocks = .ok store') :
    (store.blank parts).addBlocks blocks = .ok (store'.blank parts) := by
  induction blocks generalizing store with
  | nil =>
    cases added
    rfl
  | cons block rest ih =>
    obtain ⟨middle, first, later⟩ := addBlocks_cons added
    have blanked := addBlock_blank seen block store
    rw [first] at blanked
    exact @addBlocks_append _ _ [block] rest _ (by rw [addBlocks, List.foldlM_cons, blanked]; rfl)
      (ih later)

theorem addBlocks_roomy {blocks : List Block} (added : store.addBlocks blocks = .ok store')
    (apart : ∀ block ∈ blocks, block.botId ≠ botId) (roomy : store.Roomy botId count) :
    store'.Roomy botId count := by
  induction blocks generalizing store with
  | nil =>
    cases added
    exact roomy
  | cons block rest ih =>
    obtain ⟨middle, first, later⟩ := addBlocks_cons added
    have kept := addBlock_roomy first (apart block List.mem_cons_self) roomy
    exact ih later (fun other member => apart other (List.mem_cons_of_mem _ member)) kept

theorem addBlocks_listFlows {blocks : List Block} (added : store.addBlocks blocks = .ok store')
    (botId : String) (activeOnly : Bool) :
    store'.listFlows botId activeOnly = store.listFlows botId activeOnly := by
  induction blocks generalizing store with
  | nil =>
    cases added
    rfl
  | cons block rest ih =>
    obtain ⟨middle, first, later⟩ := addBlocks_cons added
    exact (ih later).trans (addBlock_listFlows first botId activeOnly)

/-- New blocks of a bot that are enabled are listed behind all others, in order. -/
theorem addBlocks_listBlocks {blocks : List Block} {owner : String}
    (added : store.addBlocks blocks = .ok store') (roomy : store.Roomy owner blocks.length)
    (plain : ∀ block ∈ blocks, block.botId = owner ∧ block.isEnabled = true) (botId : String)
    (enabledOnly : Bool) :
    store'.listBlocks botId enabledOnly =
      store.listBlocks botId enabledOnly ++ blocks.filter (·.botId = botId) := by
  induction blocks generalizing store with
  | nil =>
    cases added
    rw [List.filter_nil, List.append_nil]
  | cons block rest ih =>
    obtain ⟨middle, first, later⟩ := addBlocks_cons added
    obtain ⟨rfl, enabled⟩ := plain block List.mem_cons_self
    obtain ⟨middle', first', room⟩ := roomy.addBlock
    cases first.symm.trans first'
    rw [ih later room fun other member => plain other (List.mem_cons_of_mem _ member),
      addBlock_listBlocks first (roomy.mono (Nat.le_add_left 1 _)) enabled, List.append_assoc]
    congr 1
    by_cases mine : block.botId = botId <;> simp [mine]

end Store

end Parley
