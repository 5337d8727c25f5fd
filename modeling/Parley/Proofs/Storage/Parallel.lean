import Mathlib.Data.List.Forall2
import Mathlib.Data.List.Nodup
import Mathlib.Tactic.NormNum
import Parley.Proofs.Storage.Owners
import Parley.Proofs.Storage.RoundTrip
import Parley.Proofs.Storage.Tables

/-!
Tables side by side: rows of a database that hold the records of a list in memory, one by one and in
the same order, and the numbers that keep rows in that order.
-/

namespace Parley

namespace Table

variable {ρ α : Type} {R : ρ → α → Prop} {rows : List ρ} {records : List α} {p : ρ → Bool}
  {q : α → Bool}

theorem find?_parallel (parallel : List.Forall₂ R rows records)
    (same : ∀ row record, R row record → p row = q record) :
    Option.Rel R (rows.find? p) (records.find? q) := by
  induction parallel with
  | nil => exact .none
  | cons related later ih =>
    rename_i row record _ _
    have alike := same row record related
    by_cases hit : p row
    · rw [List.find?_cons_of_pos hit, List.find?_cons_of_pos (alike ▸ hit)]
      exact .some related
    · rw [List.find?_cons_of_neg hit, List.find?_cons_of_neg (alike ▸ hit)]
      exact ih

theorem found_cases {row? : Option ρ} {record? : Option α} (found : Option.Rel R row? record?) :
    row? = none ∧ record? = none ∨
      ∃ row record, row? = some row ∧ record? = some record ∧ R row record := by
  cases found with
  | none => exact Or.inl ⟨rfl, rfl⟩
  | some related => exact Or.inr ⟨_, _, rfl, rfl, related⟩

theorem any_parallel (parallel : List.Forall₂ R rows records)
    (same : ∀ row record, R row record → p row = q record) :
    rows.any p = (records.find? q).isSome := by
  have hit : rows.any p = (rows.find? p).isSome := by
    rw [Bool.eq_iff_iff, List.any_eq_true, List.find?_isSome]
  rw [hit]
  rcases found_cases (find?_parallel parallel same) with ⟨miss, miss'⟩ | ⟨row, record, hit, hit', _⟩
  · rw [miss, miss']
    rfl
  · rw [hit, hit']
    rfl

theorem update_parallel {change : ρ → ρ} {record : α} (parallel : List.Forall₂ R rows records)
    (same : ∀ row record, R row record → p row = q record)
    (holds : ∀ row, ∀ old ∈ records, R row old → q old → R (change row) record)
    (present : (records.find? q).isSome) :
    List.Forall₂ R (update p change rows) (put q record records) := by
  induction parallel with
  | nil => cases present
  | cons related later ih =>
    rename_i row old rows records
    have alike := same row old related
    by_cases hit : q old
    · rw [update, if_pos (alike ▸ hit), put, if_pos hit]
      exact .cons (holds row old List.mem_cons_self related hit) later
    · rw [List.find?_cons_of_neg hit] at present
      rw [update, if_neg (alike ▸ hit), put, if_neg hit]
      exact .cons related
        (ih (fun row old member => holds row old (List.mem_cons_of_mem _ member)) present)

theorem update_map {change : ρ → ρ} {shown : α → ρ} {record old : α}
    (found : records.find? q = some old) (hit : p (shown old))
    (only : ∀ other ∈ records, p (shown other) → other = old)
    (same : change (shown old) = shown record) :
    update p change (records.map shown) = (put q record records).map shown := by
  induction records with
  | nil => cases found
  | cons first rest ih =>
    by_cases replaced : q first
    · rw [List.find?_cons_of_pos replaced] at found
      cases found
      rw [List.map_cons, update, if_pos hit, put, if_pos replaced, List.map_cons, same]
    · have other : ¬ p (shown first) := by
        intro taken
        have found := List.find?_some found
        rw [only first List.mem_cons_self taken] at replaced
        exact replaced found
      rw [List.find?_cons_of_neg replaced] at found
      rw [List.map_cons, update, if_neg other, put, if_neg replaced, List.map_cons,
        ih found fun other member => only other (List.mem_cons_of_mem _ member)]

theorem append_parallel {row : ρ} {record : α} (parallel : List.Forall₂ R rows records)
    (holds : R row record) : List.Forall₂ R (rows ++ [row]) (records ++ [record]) :=
  List.rel_append parallel (.cons holds .nil)

theorem filter_found {row? : Option ρ} {record? : Option α} (found : Option.Rel R row? record?)
    (same : ∀ row record, R row record → p row = q record) :
    Option.Rel R (row?.filter p) (record?.filter q) := by
  cases found with
  | none => exact .none
  | some related =>
    rename_i row record
    rw [Option.filter_some, Option.filter_some, same row record related]
    cases q record
    · exact .none
    · exact .some related

theorem filter_parallel (parallel : List.Forall₂ R rows records)
    (same : ∀ row record, R row record → p row = q record) :
    List.Forall₂ R (rows.filter p) (records.filter q) :=
  List.rel_filter (fun {row record} related => Bool.eq_iff_iff.mp (same row record related)) parallel

/-- Rows from which all records can be read show what the records show. -/
theorem validOnly_parallel {β : Type} {read : ρ → Except Failure α} {shown : α → β}
    (parallel : List.Forall₂ R rows records)
    (valid : ∀ row record, R row record → ∃ value, read row = .ok value ∧ shown value = shown record) :
    (validOnly (rows.map read)).map shown = records.map shown := by
  induction parallel with
  | nil => rfl
  | cons related later ih =>
    obtain ⟨value, ok, same⟩ := valid _ _ related
    rw [List.map_cons, ok, List.map_cons, ← same, ← ih]
    rfl

end Table

/-! ### Numbers of rows -/

/-- The numbers of the first rows of a bot. -/
def Cell.numbers (count : Nat) : List Cell := (List.range count).map fun place : Nat => .int (place + 1)

/-- The rows of each bot are numbered from one on, in their order. -/
def Numbered (places : List (String × Cell)) : Prop :=
  ∀ botId, (places.filter (·.1 = botId)).map (·.2) =
    Cell.numbers (places.filter (·.1 = botId)).length

theorem Cell.le_int (a b : Int) : Cell.le (.int a) (.int b) = decide (a ≤ b) := by
  simp [Cell.le, Cell.rank]

theorem Cell.greatest?_ascending (front : List Int) {last : Int} (below : ∀ n ∈ front, n < last) :
    Cell.greatest? ((front ++ [last]).map .int) = some (.int last) := by
  induction front with
  | nil => rfl
  | cons n rest ih =>
    have later := ih fun other member => below other (List.mem_cons_of_mem _ member)
    have lower := below n List.mem_cons_self
    rw [List.cons_append, List.map_cons, greatest?, later]
    dsimp only
    rw [le_int, if_neg (by simpa using lower)]

theorem Cell.numbers_succ (count : Nat) :
    numbers (count + 1) = numbers count ++ [.int (count + 1)] := by
  rw [numbers, List.range_succ, List.map_append]
  rfl

theorem Cell.numbers_eq (count : Nat) :
    numbers count = ((List.range count).map fun place : Nat => (place + 1 : Int)).map .int := by
  rw [List.map_map]
  rfl

theorem Cell.greatest?_numbers (count : Nat) :
    (greatest? (numbers count)).getD (.int 0) = .int count := by
  cases count with
  | zero => rfl
  | succ count =>
    rw [Cell.numbers_succ, Cell.numbers_eq]
    have below : ∀ n ∈ (List.range count).map (fun place : Nat => (place + 1 : Int)),
        n < (count + 1 : Int) := by
      intro n member
      obtain ⟨place, inside, rfl⟩ := List.mem_map.mp member
      have := List.mem_range.mp inside
      omega
    have last := Cell.greatest?_ascending _ below
    rw [List.map_append] at last
    rw [show (Cell.int (count + 1)) = Cell.int ((count : Int) + 1) from rfl]
    exact congrArg (·.getD (.int 0)) last

theorem Sql.nextSeq_numbers_eq (count : Nat) :
    nextSeq (Cell.numbers count) =
      if Cell.isLong (count + 1) then .error (.column .tooLarge) else .ok (.int (count + 1)) := by
  rw [nextSeq, Cell.greatest?_numbers]
  rfl

theorem Sql.nextSeq_numbers {count : Nat} (fits : (count + 1 : Int) < Nat.pow 2 63) :
    nextSeq (Cell.numbers count) = .ok (.int (count + 1)) := by
  have short : Cell.isLong (count + 1) = false := by
    simp only [Cell.isLong, Bool.or_eq_false_iff, decide_eq_false_iff_not]
    omega
  rw [nextSeq_numbers_eq, short, if_neg Bool.false_ne_true]

theorem Cell.numbers_before (count : Nat) :
    (numbers count).Pairwise fun cell other => ∀ second, Cell.before cell other second = true := by
  rw [numbers, List.pairwise_map]
  refine List.pairwise_lt_range.imp ?_
  intro place next later second
  simp only [before, eq, le_int]
  simp only [Bool.and_eq_true, decide_eq_true_eq]
  rw [if_neg (by omega)]
  exact decide_eq_true (by omega)

namespace Numbered

theorem nil : Numbered [] := fun _ => rfl

theorem next {places : List (String × Cell)} (numbered : Numbered places) (botId : String) :
    Numbered (places ++ [(botId, .int ((places.filter (·.1 = botId)).length + 1))]) := by
  intro other
  by_cases same : botId = other
  · subst same
    have last := numbered botId
    simp only [List.filter_append, List.map_append, last]
    simp [Cell.numbers_succ]
  · have kept := numbered other
    simp [List.filter_append, same, kept]

section

variable {ρ : Type} {place : ρ → String × Cell} {rows : List ρ}

theorem own (numbered : Numbered (rows.map place)) (botId : String) :
    (rows.filter fun row => (place row).1 = botId).map (fun row => (place row).2) =
      Cell.numbers (rows.filter fun row => (place row).1 = botId).length := by
  have own := numbered botId
  rw [List.filter_map, List.map_map, List.length_map] at own
  exact own

theorem append (numbered : Numbered (rows.map place)) {botId : String} {seq : Cell}
    (next : Sql.nextSeq
      ((rows.filter fun row => (place row).1 = botId).map fun row => (place row).2) = .ok seq)
    {row : ρ} (placed : place row = (botId, seq)) : Numbered ((rows ++ [row]).map place) := by
  rw [numbered.own, Sql.nextSeq_numbers_eq] at next
  split at next
  · cases next
  · cases next
    have more := numbered.next botId
    rw [List.filter_map, List.length_map] at more
    rw [List.map_append, List.map_singleton, placed]
    exact more

theorem insert (numbered : Numbered (rows.map place)) (few : rows.length + 1 < Nat.pow 2 63)
    (botId : String) :
    ∃ seq, Sql.nextSeq ((rows.filter fun row => (place row).1 = botId).map fun row => (place row).2) =
        .ok seq ∧
      ∀ row, place row = (botId, seq) → Numbered ((rows ++ [row]).map place) := by
  have fewer := List.length_filter_le (fun row => decide ((place row).1 = botId)) rows
  have next := (congrArg Sql.nextSeq (numbered.own botId)).trans (Sql.nextSeq_numbers (by omega))
  exact ⟨_, next, fun row placed => numbered.append next placed⟩

end

/-- Rows that are numbered are listed as they stand. -/
theorem mergeSort_eq {ρ : Type} {place : ρ → String × Cell} {rows : List ρ}
    (numbered : Numbered (rows.map place)) (botId : String) {before : ρ → ρ → Bool}
    (sorts : ∀ row other, (∀ second, Cell.before (place row).2 (place other).2 second = true) →
      before row other = true) :
    (rows.filter fun row => (place row).1 = botId).mergeSort before =
      rows.filter fun row => (place row).1 = botId := by
  apply List.mergeSort_of_pairwise
  have ordered := Cell.numbers_before ((rows.map place).filter (·.1 = botId)).length
  rw [← numbered botId, List.pairwise_map, List.filter_map, List.pairwise_map] at ordered
  exact ordered.imp fun {row other} => sorts row other

end Numbered

/-! ### Rows beside records -/

namespace Table

variable {ρ α : Type} {R : ρ → α → Prop} {place : ρ → String × Cell} {rows rows' : List ρ}
  {records : List α}

/-- Rows that hold some records one by one, and are numbered in that order. -/
structure Beside (R : ρ → α → Prop) (place : ρ → String × Cell) (rows : List ρ) (records : List α) :
    Prop where
  parallel : List.Forall₂ R rows records
  numbered : Numbered (rows.map place)

namespace Beside

variable {p : ρ → Bool} {q : α → Bool} {write : ρ → ρ} {fresh : Cell → ρ} {botId : String} {record : α}

/-- Saving a row keeps the rows beside the records, in which the record takes its place. -/
theorem save (beside : Beside R place rows records)
    (saved : saveRow p place write botId fresh rows = .ok rows')
    (same : ∀ row record, R row record → p row = q record)
    (holds : ∀ row, ∀ old ∈ records, R row old → q old → R (write row) record)
    (stays : ∀ row, place (write row) = place row)
    (fits : ∀ seq, R (write (fresh seq)) record ∧ place (write (fresh seq)) = (botId, seq)) :
    Beside R place rows' (put q record records) := by
  rw [saveRow, any_parallel beside.parallel same] at saved
  cases known : records.find? q with
  | some old =>
    rw [known, Option.isSome_some, if_pos rfl] at saved
    cases saved
    refine ⟨update_parallel beside.parallel same holds (by rw [known]; rfl), ?_⟩
    rw [map_update stays]
    exact beside.numbered
  | none =>
    rw [known, Option.isSome_none, if_neg Bool.false_ne_true] at saved
    cases next : Sql.nextSeq
        ((rows.filter fun row => (place row).1 = botId).map fun row => (place row).2) with
    | error failure =>
      rw [next] at saved
      cases saved
    | ok seq =>
      rw [next] at saved
      cases saved
      rw [put_of_none known]
      exact ⟨append_parallel beside.parallel (fits seq).1, beside.numbered.append next (fits seq).2⟩

theorem goes (beside : Beside R place rows records) (few : records.length + 1 < Nat.pow 2 63) :
    ∃ rows', saveRow p place write botId fresh rows = .ok rows' := by
  rw [saveRow]
  split
  · exact ⟨_, rfl⟩
  · rw [← beside.parallel.length_eq] at few
    obtain ⟨seq, next, _⟩ := beside.numbered.insert few botId
    rw [next]
    exact ⟨_, rfl⟩

/-- Rows that are numbered stand in the order of scanning already. -/
theorem scanned (beside : Beside R place rows records) (botId : String) {before : ρ → ρ → Bool}
    {owner : α → String} (own : ∀ row record, R row record → (place row).1 = owner record)
    (sorts : ∀ row other, (∀ second, Cell.before (place row).2 (place other).2 second = true) →
      before row other = true) :
    List.Forall₂ R ((rows.filter fun row => (place row).1 = botId).mergeSort before)
      (records.filter (owner · = botId)) := by
  rw [beside.numbered.mergeSort_eq botId sorts]
  exact filter_parallel beside.parallel fun row record holds => by rw [own row record holds]

end Beside

theorem listed_parallel {β : Type} {read : ρ → Except Failure α} {shown : α → β} {own : α → Bool}
    (scanned : List.Forall₂ R rows (records.filter own)) {keeps : ρ → Bool} {kept : α → Bool}
    (same : ∀ row record, R row record → keeps row = kept record)
    (reads : ∀ row record, R row record →
      ∃ found, read row = .ok found ∧ shown found = shown record) :
    (validOnly ((rows.filter keeps).map read)).map shown =
      (records.filter fun record => own record && kept record).map shown := by
  have listed := filter_parallel scanned same
  have both : (records.filter own).filter kept =
      records.filter fun record => own record && kept record := by
    rw [List.filter_filter]
    exact List.filter_congr fun _ _ => Bool.and_comm _ _
  rw [both] at listed
  exact validOnly_parallel listed reads

end Table

/-! ### Logs -/

/-- Entries of which each is later than those before are sorted as they stand. -/
theorem LogEntry.sorted_eq {entries : List LogEntry}
    (later : entries.Pairwise fun entry other => entry.timestamp.micros < other.timestamp.micros)
    {sorted : List LogEntry} (same : sorted.Perm entries) :
    (sorted.mergeSort fun entry other => other.timestamp.micros ≤ entry.timestamp.micros) =
      entries.reverse := by
  have apart : (entries.map (·.timestamp.micros)).Nodup := by
    rw [List.Nodup, List.pairwise_map]
    exact later.imp fun less => Int.ne_of_lt less
  have perm := ((List.mergeSort_perm sorted fun entry other : LogEntry =>
    other.timestamp.micros ≤ entry.timestamp.micros).trans same).trans entries.reverse_perm.symm
  have descending : (sorted.mergeSort fun entry other : LogEntry =>
      other.timestamp.micros ≤ entry.timestamp.micros).Pairwise fun entry other =>
        other.timestamp.micros ≤ entry.timestamp.micros := by
    refine (List.pairwise_mergeSort ?_ ?_ sorted).imp of_decide_eq_true
    · intro first second third
      simp only [decide_eq_true_eq]
      omega
    · intro first second
      simp only [Bool.or_eq_true, decide_eq_true_eq]
      omega
  have reversed : entries.reverse.Pairwise fun entry other =>
      other.timestamp.micros ≤ entry.timestamp.micros := by
    rw [List.pairwise_reverse]
    exact later.imp Int.le_of_lt
  refine perm.eq_of_pairwise ?_ descending reversed
  intro entry other inside inside' le ge
  exact List.inj_on_of_nodup_map apart (List.mem_reverse.mp (perm.mem_iff.mp inside))
    (List.mem_reverse.mp inside') (Int.le_antisymm ge le)

/-- A database lists the last entries of a log of which each is later than those before. -/
theorem Sql.listEntries_drop {sql : Sql} {botId : String} {senderId : Option String} {limit : Int}
    (nonneg : 0 ≤ limit)
    (later : (sql.entries.filter (·.isOf botId senderId)).Pairwise fun entry other =>
      entry.timestamp.micros < other.timestamp.micros) :
    sql.listEntries botId senderId (some limit) =
      (sql.entries.filter (·.isOf botId senderId)).drop
        ((sql.entries.filter (·.isOf botId senderId)).length - limit.toNat) := by
  have sorted := LogEntry.sorted_eq later
    (List.mergeSort_perm _ fun entry other => decide (entry.senderId ≤ other.senderId))
  rw [listEntries, sorted, if_neg (by omega), List.reverse_take, List.reverse_reverse, List.length_reverse]

theorem Sql.listEntries_eq {sql : Sql} {botId : String} {senderId : Option String} {limit : Int}
    (positive : 1 ≤ limit)
    (later : sql.entries.Pairwise fun entry other =>
      entry.botId = other.botId → entry.timestamp.micros < other.timestamp.micros) :
    sql.listEntries botId senderId (some limit) =
      Table.tail limit (sql.entries.filter (·.isOf botId senderId)) := by
  have own : (sql.entries.filter (·.isOf botId senderId)).Pairwise fun entry other =>
      entry.timestamp.micros < other.timestamp.micros := by
    refine (later.filter _).imp_of_mem ?_
    intro entry other inside inside' less
    have first := (List.mem_filter.mp inside).2
    have second := (List.mem_filter.mp inside').2
    simp only [LogEntry.isOf, Bool.and_eq_true, decide_eq_true_eq] at first second
    exact less (first.1.trans second.1.symm)
  rw [Sql.listEntries_drop (by omega) own, Table.tail, if_neg (by omega), if_neg (by omega)]

end Parley
