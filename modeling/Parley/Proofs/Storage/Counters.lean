import Mathlib.Algebra.BigOperators.Group.List.Basic
import Parley.Proofs.Storage.Operations
import Parley.Proofs.Storage.Owners

/-!
Counters of a day to which several writers add at once. A writer updates the row of the day; if there
is none it inserts one, and if another writer was faster the transaction is rolled back and tried
again. Whatever the order of these steps, no writer tries more than twice, and nothing that is added
is lost.
-/

namespace Parley

/-! ### What is added -/

structure Increment where
  incoming : Int
  outgoing : Int
  users : Int

def Increment.ofMessage (direction : Direction) (newUser : Bool) : Increment where
  incoming := if direction = .incoming then 1 else 0
  outgoing := if direction = .incoming then 0 else 1
  users := if newUser then 1 else 0

namespace DailyCount

def grow (increment : Increment) (count : DailyCount) : DailyCount :=
  { count with
    total := count.total + 1
    incoming := count.incoming + increment.incoming
    outgoing := count.outgoing + increment.outgoing
    uniqueUsers := count.uniqueUsers + increment.users }

def plus (sum : (Increment → Int) → Int) (count : DailyCount) : DailyCount :=
  { count with
    total := count.total + sum fun _ => 1
    incoming := count.incoming + sum (·.incoming)
    outgoing := count.outgoing + sum (·.outgoing)
    uniqueUsers := count.uniqueUsers + sum (·.users) }

theorem grow_ofMessage (direction : Direction) (newUser : Bool) (count : DailyCount) :
    count.grow (.ofMessage direction newUser) = count.bump direction newUser := rfl

theorem grow_plus (increment : Increment) (sum : (Increment → Int) → Int) (count : DailyCount) :
    (count.plus sum).grow increment = count.plus fun part => sum part + part increment := by
  simp only [grow, plus, Int.add_assoc]

theorem plus_zero (count : DailyCount) : count.plus (fun _ => 0) = count := by
  simp only [plus, Int.add_zero]

end DailyCount

namespace Sql

variable (botId : String) (day : Day) (increment : Increment) (sql : Sql)

def rows : List DailyCount := sql.counts.filter (·.isOf botId day)

/-- Adds to the row of a day; says whether there is one. -/
def growCount : Bool × Sql :=
  (sql.counts.any (·.isOf botId day),
    { sql with counts := Table.update (·.isOf botId day) (·.grow increment) sql.counts })

def insertGrown : Except Failure Sql :=
  if sql.counts.any (·.isOf botId day) then .error .keyTaken
  else .ok { sql with counts := sql.counts ++ [DailyCount.grow increment { botId, day }] }

variable {botId day increment sql} in
theorem any_isOf_iff : sql.counts.any (·.isOf botId day) = true ↔ sql.rows botId day ≠ [] := by
  rw [rows, Ne, List.filter_eq_nil_iff]
  simp

theorem rows_grown : rows botId day { sql with
      counts := Table.update (·.isOf botId day) (·.grow increment) sql.counts } =
    Table.update (·.isOf botId day) (·.grow increment) (sql.rows botId day) :=
  Table.filter_update_in fun _ _ hit => ⟨hit, hit⟩

theorem rows_inserted : rows botId day { sql with
      counts := sql.counts ++ [DailyCount.grow increment { botId, day }] } =
    sql.rows botId day ++ [DailyCount.grow increment { botId, day }] := by
  simp [rows, DailyCount.isOf, DailyCount.grow]

variable (direction : Direction) (newUser : Bool)

theorem growCount_ofMessage : sql.growCount botId day (.ofMessage direction newUser) =
    sql.addToCount botId day direction newUser := rfl

theorem insertGrown_ofMessage : sql.insertGrown botId day (.ofMessage direction newUser) =
    sql.insertCount botId day direction newUser := rfl

end Sql

/-! ### Writers -/

/-- A writer that adds to the counters of a day: what it adds, and how far it has come in which
attempt. -/
inductive Writer.Phase where
  | updating (attempt : Nat)
  | inserting (attempt : Nat)
  | conflicted (attempt : Nat)
  | finished (attempt : Nat)
  | failed
  deriving DecidableEq

structure Writer where
  increment : Increment
  phase : Writer.Phase := .updating 1

namespace Writer

namespace Phase

def attempt : Phase → Nat
  | updating attempt | inserting attempt | conflicted attempt | finished attempt => attempt
  | failed => Storage.maxAttempts

def isFinished : Phase → Bool
  | finished _ => true
  | _ => false

/-- What a phase says about whether the row of the day is there. -/
def Fits (present : Prop) : Phase → Prop
  | updating attempt => attempt = 1 ∨ attempt = 2 ∧ present
  | inserting attempt => attempt = 1
  | conflicted attempt => attempt = 1 ∧ present
  | finished attempt => attempt ≤ 2 ∧ present
  | failed => False

/-- How many steps a writer has before it at most. -/
def ahead : Phase → Nat
  | updating attempt => if attempt = 1 then 4 else 1
  | inserting _ => 3
  | conflicted _ => 2
  | finished _ | failed => 0

variable {present later : Prop} {phase : Phase}

theorem Fits.mono (fits : phase.Fits present) (stays : present → later) : phase.Fits later := by
  cases phase with
  | updating => exact fits.imp_right (And.imp_right stays)
  | inserting => exact fits
  | conflicted => exact fits.imp_right stays
  | finished => exact fits.imp_right stays
  | failed => exact fits

theorem Fits.attempt_le (fits : phase.Fits present) : phase ≠ .failed ∧ phase.attempt ≤ 2 := by
  cases phase <;> simp only [Fits] at fits <;> simp [attempt] <;> omega

theorem Fits.isFinished (fits : phase.Fits present) (last : phase.ahead = 0) :
    phase.isFinished = true := by
  cases phase with
  | updating attempt =>
    rw [ahead] at last
    split at last <;> cases last
  | finished => rfl
  | failed => exact fits.elim
  | _ => cases last

end Phase

variable (botId : String) (day : Day)

/-- The next step of a writer: a statement with which its transaction ends or goes on, or a new
attempt after one that was rolled back. -/
def advance (writer : Writer) (sql : Sql) : Sql × Phase :=
  match writer.phase with
  | .updating attempt =>
    match sql.growCount botId day writer.increment with
    | (true, grown) => (grown, .finished attempt)
    | (false, same) => (same, .inserting attempt)
  | .inserting attempt =>
    match sql.insertGrown botId day writer.increment with
    | .ok inserted => (inserted, .finished attempt)
    | .error _ => (sql, .conflicted attempt)
  | .conflicted attempt =>
    (sql, if attempt < Storage.maxAttempts then .updating (attempt + 1) else .failed)
  | .finished attempt => (sql, .finished attempt)
  | .failed => (sql, .failed)

def gain (part : Increment → Int) (writer : Writer) : Int :=
  if writer.phase.isFinished then part writer.increment else 0

end Writer

structure Crowd where
  sql : Sql
  writers : List Writer

namespace Writer

/-- What a step of a writer does, by whether the row of the day is there. -/
inductive Advances (botId : String) (day : Day) (increment : Increment) (sql : Sql) :
    Phase → Sql → Phase → Prop
  | updates {attempt : Nat} (present : sql.rows botId day ≠ []) :
    Advances botId day increment sql (.updating attempt)
      { sql with counts := Table.update (·.isOf botId day) (·.grow increment) sql.counts }
      (.finished attempt)
  | misses {attempt : Nat} (absent : sql.rows botId day = []) :
    Advances botId day increment sql (.updating attempt) sql (.inserting attempt)
  | inserts {attempt : Nat} (absent : sql.rows botId day = []) :
    Advances botId day increment sql (.inserting attempt)
      { sql with counts := sql.counts ++ [DailyCount.grow increment { botId, day }] }
      (.finished attempt)
  | conflicts {attempt : Nat} (present : sql.rows botId day ≠ []) :
    Advances botId day increment sql (.inserting attempt) sql (.conflicted attempt)
  | retries {attempt : Nat} (more : attempt < Storage.maxAttempts) :
    Advances botId day increment sql (.conflicted attempt) sql (.updating (attempt + 1))
  | abandons {attempt : Nat} (last : ¬ attempt < Storage.maxAttempts) :
    Advances botId day increment sql (.conflicted attempt) sql .failed
  | rests {phase : Phase} (last : phase.ahead = 0) :
    Advances botId day increment sql phase sql phase

theorem advance_advances (botId : String) (day : Day) (writer : Writer) (sql : Sql) :
    Advances botId day writer.increment sql writer.phase (writer.advance botId day sql).1
      (writer.advance botId day sql).2 := by
  obtain ⟨increment, phase⟩ := writer
  cases phase with
  | updating attempt =>
    rw [advance, Sql.growCount]
    by_cases present : sql.counts.any (·.isOf botId day) = true
    · rw [present]
      exact .updates (Sql.any_isOf_iff.mp present)
    · have absent : sql.counts.find? (·.isOf botId day) = none := by simpa using present
      rw [eq_false_of_ne_true present, Table.update_of_none absent]
      exact .misses (not_not.mp (Sql.any_isOf_iff.not.mp present))
  | inserting attempt =>
    rw [advance, Sql.insertGrown]
    by_cases present : sql.counts.any (·.isOf botId day) = true
    · rw [if_pos present]
      exact .conflicts (Sql.any_isOf_iff.mp present)
    · rw [if_neg present]
      exact .inserts (not_not.mp (Sql.any_isOf_iff.not.mp present))
  | conflicted attempt =>
    rw [advance]
    dsimp only
    split
    · rename_i more
      exact .retries more
    · rename_i last
      exact .abandons last
  | finished attempt => exact .rests rfl
  | failed => exact .rests rfl

variable {botId : String} {day : Day} {increment : Increment} {sql sql' : Sql} {phase phase' : Phase}

theorem Advances.rows_ne_nil (advances : Advances botId day increment sql phase sql' phase')
    (present : sql.rows botId day ≠ []) : sql'.rows botId day ≠ [] := by
  cases advances with
  | updates =>
    rw [Sql.rows_grown]
    cases rows : sql.rows botId day with
    | nil => exact absurd rows present
    | cons => rw [Table.update]; split <;> exact List.cons_ne_nil _ _
  | inserts absent => exact absurd absent present
  | _ => exact present

/-- A writer that misses the row inserts it, or meets it in its second attempt. -/
theorem Advances.fits (advances : Advances botId day increment sql phase sql' phase')
    (fits : phase.Fits (sql.rows botId day ≠ [])) : phase'.Fits (sql'.rows botId day ≠ []) := by
  have stays := advances.rows_ne_nil
  cases advances with
  | updates present => exact ⟨fits.elim (by omega) (by omega), stays present⟩
  | misses absent => exact fits.elim id fun second => absurd absent second.2
  | inserts =>
    have first : _ = 1 := fits
    exact ⟨by omega, by simp [Sql.rows_inserted]⟩
  | conflicts present => exact ⟨fits, present⟩
  | retries => exact .inr ⟨congrArg (· + 1) fits.1, fits.2⟩
  -- a conflict is met in the first attempt only, and there is a second one
  | abandons last => exact last (fits.1 ▸ by decide)
  | rests => exact fits

theorem Advances.keeps (advances : Advances botId day increment sql phase sql' phase') :
    sql' = { sql with counts := sql'.counts } ∧
      sql'.counts.filter (!·.isOf botId day) = sql.counts.filter (!·.isOf botId day) := by
  cases advances with
  | updates =>
    refine ⟨rfl, Table.filter_update_out fun old _ hit => ?_⟩
    exact ⟨congrArg not hit, congrArg not hit⟩
  | inserts => exact ⟨rfl, by simp [DailyCount.isOf, DailyCount.grow]⟩
  | _ => exact ⟨rfl, rfl⟩

theorem Advances.rows_cases (advances : Advances botId day increment sql phase sql' phase') :
    phase'.isFinished = phase.isFinished ∧ sql'.rows botId day = sql.rows botId day ∨
      phase.isFinished = false ∧ phase'.isFinished = true ∧
        (sql.rows botId day = [] ∧
            sql'.rows botId day = [DailyCount.grow increment { botId, day }] ∨
          sql.rows botId day ≠ [] ∧ sql'.rows botId day =
            Table.update (·.isOf botId day) (·.grow increment) (sql.rows botId day)) := by
  cases advances with
  | updates present => exact .inr ⟨rfl, rfl, .inr ⟨present, sql.rows_grown ..⟩⟩
  | inserts absent =>
    exact .inr ⟨rfl, rfl, .inl ⟨absent, by rw [Sql.rows_inserted, absent, List.nil_append]⟩⟩
  | _ => exact .inl ⟨rfl, rfl⟩

theorem Advances.ahead_le (advances : Advances botId day increment sql phase sql' phase')
    (fits : phase.Fits (sql.rows botId day ≠ [])) : phase'.ahead ≤ phase.ahead - 1 := by
  cases advances with
  | misses absent =>
    have first := fits.resolve_right fun second => second.2 absent
    simp [Phase.ahead, first]
  | retries => simp [Phase.ahead, fits.1]
  | conflicts => exact Nat.le_refl 2
  | rests last => omega
  | _ => exact Nat.zero_le _

end Writer

namespace Crowd

def gather (sql : Sql) (increments : List Increment) : Crowd :=
  { sql, writers := increments.map fun increment => { increment } }

variable (botId : String) (day : Day)

def step (crowd : Crowd) (turn : Nat) : Crowd :=
  match crowd.writers[turn]? with
  | none => crowd
  | some writer =>
    let (sql, phase) := writer.advance botId day crowd.sql
    { sql, writers := crowd.writers.set turn { writer with phase } }

def run (crowd : Crowd) (schedule : List Nat) : Crowd := schedule.foldl (step botId day) crowd

/-- A writer that is alone needs two steps at most, and they do what an attempt to count a message
does. -/
theorem attempt_eq_alone (sql : Sql) (direction : Direction) (newUser : Bool) (storage : Storage) :
    let alone := (gather sql [.ofMessage direction newUser]).run botId day [0, 0]
    alone.writers.map (·.phase) = [.finished 1] ∧
      ∃ source, outcome (Storage.bumpCount.attempt botId day direction newUser sql) storage =
        (.ok (), { storage with source, store := .sql alone.sql }) := by
  intro alone
  have steps : alone =
      ((gather sql [.ofMessage direction newUser]).step botId day 0).step botId day 0 := rfl
  rw [steps, Storage.bumpCount.attempt, ← Sql.growCount_ofMessage]
  cases present : sql.counts.any (·.isOf botId day) with
  | true =>
    have first : (gather sql [.ofMessage direction newUser]).step botId day 0 =
        { sql := (sql.growCount botId day (.ofMessage direction newUser)).2
          writers := [⟨.ofMessage direction newUser, .finished 1⟩] } := by
      simp [gather, step, Writer.advance, Sql.growCount, present]
    rw [first, Sql.growCount, present]
    exact ⟨rfl, storage.source, rfl⟩
  | false =>
    have absent : sql.counts.find? (·.isOf botId day) = none := by simpa using present
    have first : (gather sql [.ofMessage direction newUser]).step botId day 0 =
        { sql, writers := [⟨.ofMessage direction newUser, .inserting 1⟩] } := by
      simp [gather, step, Writer.advance, Sql.growCount, present, Table.update_of_none absent]
    have inserted : sql.insertGrown botId day (.ofMessage direction newUser) = .ok { sql with
        counts := sql.counts ++ [.grow (.ofMessage direction newUser) { botId, day }] } := by
      simp [Sql.insertGrown, present]
    have second : step botId day ⟨sql, [⟨.ofMessage direction newUser, .inserting 1⟩]⟩ 0 =
        { sql := { sql with
            counts := sql.counts ++ [.grow (.ofMessage direction newUser) { botId, day }] }
          writers := [⟨.ofMessage direction newUser, .finished 1⟩] } := by
      simp [step, Writer.advance, inserted]
    rw [first, second, Sql.growCount, present, Table.update_of_none absent]
    dsimp only
    rw [outcome_bind_of_ok (Storage.outcome_draw _ _), ← Sql.insertGrown_ofMessage, inserted]
    exact ⟨rfl, (Source.freshId.run storage.source).2, rfl⟩

def gain (crowd : Crowd) (part : Increment → Int) : Int := (crowd.writers.map (·.gain part)).sum

variable {botId : String} {day : Day} {start : Sql} {crowd : Crowd} {turn : Nat} {writer : Writer}

theorem step_of_none (absent : crowd.writers[turn]? = none) : crowd.step botId day turn = crowd := by
  rw [step, absent]

theorem step_of_some (present : crowd.writers[turn]? = some writer) :
    crowd.step botId day turn =
      { sql := (writer.advance botId day crowd.sql).1
        writers := crowd.writers.set turn
          { writer with phase := (writer.advance botId day crowd.sql).2 } } := by
  rw [step, present]

theorem gain_set (sql : Sql) (present : crowd.writers[turn]? = some writer) (next : Writer)
    (part : Increment → Int) :
    gain { sql, writers := crowd.writers.set turn next } part =
      crowd.gain part - writer.gain part + next.gain part := by
  obtain ⟨inside, rfl⟩ := List.getElem?_eq_some_iff.mp present
  have inside' : turn < (crowd.writers.map (·.gain part)).length := by simpa using inside
  rw [gain, gain, List.map_set, List.sum_set', dif_pos inside', List.getElem_map]
  omega

def before (botId : String) (day : Day) (start : Sql) : DailyCount :=
  (start.count? botId day).getD { botId, day }

/-- What holds between the steps: the row of the day is there once a writer has finished, its counters
have grown by what the writers added that have, and nothing else has changed. -/
structure Sound (botId : String) (day : Day) (start : Sql) (crowd : Crowd) : Prop where
  rest : crowd.sql = { start with counts := crowd.sql.counts }
  others : crowd.sql.counts.filter (!·.isOf botId day) = start.counts.filter (!·.isOf botId day)
  row : crowd.sql.rows botId day = [] ∧ start.rows botId day = [] ∨
    crowd.sql.rows botId day = [(before botId day start).plus crowd.gain]
  phases : ∀ writer ∈ crowd.writers, writer.phase.Fits (crowd.sql.rows botId day ≠ [])

theorem before_of_nil (absent : start.rows botId day = []) :
    before botId day start = { botId, day } := by
  rw [before, Sql.count?, ← List.head?_filter]
  change (start.rows botId day).head?.getD _ = _
  rw [absent]
  rfl

theorem before_of_cons {count : DailyCount} {more : List DailyCount}
    (present : start.rows botId day = count :: more) : before botId day start = count := by
  rw [before, Sql.count?, ← List.head?_filter]
  change (start.rows botId day).head?.getD _ = _
  rw [present]
  rfl

theorem gain_of_unfinished (unfinished : ∀ writer ∈ crowd.writers, writer.phase.isFinished = false) :
    crowd.gain = fun _ => 0 := by
  funext part
  apply List.sum_eq_zero
  intro added member
  obtain ⟨writer, own, rfl⟩ := List.mem_map.mp member
  rw [Writer.gain, unfinished writer own]
  rfl

theorem gather_sound (once : (start.rows botId day).length ≤ 1) (increments : List Increment) :
    Sound botId day start (gather start increments) := by
  have none : (gather start increments).gain = fun _ => 0 := by
    apply gain_of_unfinished
    intro writer member
    obtain ⟨increment, _, rfl⟩ := List.mem_map.mp member
    rfl
  refine ⟨rfl, rfl, ?_, ?_⟩
  · rw [none, DailyCount.plus_zero]
    change start.rows botId day = [] ∧ _ ∨ start.rows botId day = _
    rcases rows : start.rows botId day with _ | ⟨count, _ | ⟨second, more⟩⟩
    · exact .inl ⟨rfl, rfl⟩
    · exact .inr (by rw [before_of_cons rows])
    · rw [rows, List.length_cons, List.length_cons] at once
      omega
  · intro writer member
    obtain ⟨increment, _, rfl⟩ := List.mem_map.mp member
    exact .inl rfl

theorem Sound.start_rows (sound : Sound botId day start crowd)
    (absent : crowd.sql.rows botId day = []) : start.rows botId day = [] := by
  rcases sound.row with ⟨_, none⟩ | present
  · exact none
  · cases absent.symm.trans present

theorem Sound.unfinished (sound : Sound botId day start crowd)
    (absent : crowd.sql.rows botId day = []) :
    ∀ writer ∈ crowd.writers, writer.phase.isFinished = false := by
  intro writer member
  have fits := sound.phases writer member
  cases own : writer.phase with
  | finished =>
    rw [own] at fits
    exact absurd absent fits.2
  | _ => rfl

/-- The row of the day after a step has what the writers have added by then. -/
theorem Sound.step_row (sound : Sound botId day start crowd) {phase : Writer.Phase} {sql : Sql}
    (present : crowd.writers[turn]? = some writer)
    (advances : Writer.Advances botId day writer.increment crowd.sql writer.phase sql phase) :
    sql.rows botId day = [] ∧ start.rows botId day = [] ∨ sql.rows botId day =
      [(before botId day start).plus
        (gain { sql, writers := crowd.writers.set turn { writer with phase } })] := by
  have gains := gain_set sql present { writer with phase }
  rcases advances.rows_cases with ⟨same, rows⟩ | ⟨unfinished, finished, grown⟩
  · have idle : gain { sql, writers := crowd.writers.set turn { writer with phase } } =
        crowd.gain := by
      funext part
      rw [gains, Writer.gain, Writer.gain, same]
      exact Int.sub_add_cancel _ _
    rw [rows, idle]
    exact sound.row
  · have added : gain { sql, writers := crowd.writers.set turn { writer with phase } } =
        fun part => crowd.gain part + part writer.increment := by
      funext part
      simp [gains, Writer.gain, unfinished, finished]
    right
    rw [added, ← DailyCount.grow_plus]
    -- a first row is inserted while no one has finished; later ones grow the row that is there
    rcases grown with ⟨absent, rows⟩ | ⟨some, rows⟩
    · have none := gain_of_unfinished (sound.unfinished absent)
      rw [rows, none, DailyCount.plus_zero, before_of_nil (sound.start_rows absent)]
    · have own := sound.row.resolve_left fun none => some none.1
      have hit : ((before botId day start).plus crowd.gain).isOf botId day = true :=
        (List.mem_filter.mp (own ▸ List.mem_singleton_self _ : _ ∈ crowd.sql.rows botId day)).2
      rw [rows, own, Table.update, if_pos hit]

theorem step_sound (sound : Sound botId day start crowd) (turn : Nat) :
    Sound botId day start (crowd.step botId day turn) := by
  cases present : crowd.writers[turn]? with
  | none => rwa [step_of_none present]
  | some writer =>
    have advances := writer.advance_advances botId day crowd.sql
    have fits := advances.fits (sound.phases writer (List.mem_of_getElem? present))
    obtain ⟨kept, others⟩ := advances.keeps
    rw [step_of_some present]
    refine ⟨?_, others.trans sound.others, sound.step_row present advances, ?_⟩
    · rw [kept, sound.rest]
    · intro other member
      rcases List.mem_or_eq_of_mem_set member with old | rfl
      · exact (sound.phases other old).mono advances.rows_ne_nil
      · exact fits

theorem run_sound (sound : Sound botId day start crowd) (schedule : List Nat) :
    Sound botId day start (crowd.run botId day schedule) := by
  induction schedule generalizing crowd with
  | nil => exact sound
  | cons turn rest ih => exact ih (step_sound sound turn)

/-! ### Schedules -/

theorem run_increments (crowd : Crowd) (schedule : List Nat) :
    (crowd.run botId day schedule).writers.map (·.increment) = crowd.writers.map (·.increment) := by
  induction schedule generalizing crowd with
  | nil => rfl
  | cons turn rest ih =>
    refine (ih (crowd.step botId day turn)).trans ?_
    cases present : crowd.writers[turn]? with
    | none => rw [step_of_none present]
    | some writer =>
      rw [step_of_some present]
      apply List.ext_getElem?
      intro index
      rw [List.getElem?_map, List.getElem?_map]
      by_cases own : turn = index
      · subst own
        rw [List.getElem?_set_self (List.getElem?_eq_some_iff.mp present).1, present]
        rfl
      · rw [List.getElem?_set_ne own]

/-- Each step of a writer brings it closer to its end. -/
theorem step_ahead (sound : Sound botId day start crowd) (turn index : Nat)
    (reached : (crowd.step botId day turn).writers[index]? = some writer) :
    ∃ first, crowd.writers[index]? = some first ∧
      writer.phase.ahead ≤ first.phase.ahead - if turn = index then 1 else 0 := by
  cases present : crowd.writers[turn]? with
  | none =>
    rw [step_of_none present] at reached
    have other : turn ≠ index := by
      rintro rfl
      cases present.symm.trans reached
    exact ⟨writer, reached, by rw [if_neg other, Nat.sub_zero]⟩
  | some first =>
    have advances := first.advance_advances botId day crowd.sql
    have fewer := advances.ahead_le (sound.phases first (List.mem_of_getElem? present))
    rw [step_of_some present] at reached
    by_cases own : turn = index
    · subst own
      have inside := (List.getElem?_eq_some_iff.mp present).1
      rw [List.getElem?_set_self inside] at reached
      cases reached
      exact ⟨first, present, by rwa [if_pos rfl]⟩
    · rw [List.getElem?_set_ne own] at reached
      exact ⟨writer, reached, by rw [if_neg own, Nat.sub_zero]⟩

theorem run_ahead (sound : Sound botId day start crowd) (schedule : List Nat) (index : Nat)
    (reached : (crowd.run botId day schedule).writers[index]? = some writer) :
    ∃ first, crowd.writers[index]? = some first ∧
      writer.phase.ahead ≤ first.phase.ahead - schedule.count index := by
  induction schedule generalizing crowd with
  | nil => exact ⟨writer, reached, Nat.le_refl _⟩
  | cons turn rest ih =>
    -- other writers' steps leave this one where it is, so only its own turns count
    obtain ⟨second, found, fewer⟩ := ih (step_sound sound turn) reached
    obtain ⟨first, found', fewer'⟩ := step_ahead sound turn index found
    refine ⟨first, found', ?_⟩
    rw [List.count_cons]
    simp only [beq_iff_eq]
    omega

theorem gain_of_finished
    (finished : ∀ writer ∈ crowd.writers, writer.phase.isFinished = true) (part : Increment → Int) :
    crowd.gain part = ((crowd.writers.map (·.increment)).map part).sum := by
  rw [gain, List.map_map]
  congr 1
  refine List.map_congr_left fun writer member => ?_
  rw [Writer.gain, finished writer member]
  rfl

/-- However many writers add to the counters of a day at once, and in whatever order they take their
steps, none of them comes to a third attempt, four steps of each are enough, and when all have
finished the day has one row, whose counters have grown by the sums of what they added. -/
theorem concurrent_counts_add_up (start : Sql) (botId : String) (day : Day)
    (increments : List Increment) (once : (start.rows botId day).length ≤ 1) (schedule : List Nat) :
    let reached := (gather start increments).run botId day schedule
    (∀ writer ∈ reached.writers, writer.phase ≠ .failed ∧ writer.phase.attempt ≤ 2) ∧
    ((∀ index < increments.length, 4 ≤ schedule.count index) →
      ∀ writer ∈ reached.writers, writer.phase.isFinished = true) ∧
    ((∀ writer ∈ reached.writers, writer.phase.isFinished = true) →
      increments ≠ [] ∨ start.rows botId day ≠ [] →
      ∃ count, reached.sql.rows botId day = [count] ∧
        count.total = (before botId day start).total + increments.length ∧
        count.incoming = (before botId day start).incoming + (increments.map (·.incoming)).sum ∧
        count.outgoing = (before botId day start).outgoing + (increments.map (·.outgoing)).sum ∧
        count.uniqueUsers = (before botId day start).uniqueUsers + (increments.map (·.users)).sum) ∧
    reached.writers.map (·.increment) = increments ∧
    reached.sql = { start with counts := reached.sql.counts } ∧
    reached.sql.counts.filter (!·.isOf botId day) = start.counts.filter (!·.isOf botId day) := by
  intro reached
  have begun := gather_sound once increments
  have sound : Sound botId day start reached := run_sound begun schedule
  have same : reached.writers.map (·.increment) = increments := by
    rw [run_increments, gather, List.map_map]
    exact List.map_id _
  refine ⟨fun writer member => (sound.phases writer member).attempt_le, ?_, ?_, same, sound.rest,
    sound.others⟩
  · intro turns writer member
    obtain ⟨index, found⟩ := List.mem_iff_getElem?.mp member
    obtain ⟨first, present, fewer⟩ := run_ahead begun schedule index found
    rw [gather, List.getElem?_map, Option.map_eq_some_iff] at present
    obtain ⟨increment, own, rfl⟩ := present
    have enough := turns index (List.getElem?_eq_some_iff.mp own).1
    have first : ({ increment } : Writer).phase.ahead = 4 := rfl
    exact (sound.phases writer member).isFinished (by omega)
  · intro finished some
    have gains := gain_of_finished finished
    rw [same] at gains
    have present : reached.sql.rows botId day ≠ [] := by
      intro absent
      refine some.elim (fun many => many ?_) (fun old => old (sound.start_rows absent))
      rw [← same, List.map_eq_nil_iff, List.eq_nil_iff_forall_not_mem]
      intro writer member
      cases (finished writer member).symm.trans (sound.unfinished absent writer member)
    have row := sound.row.resolve_left fun none => present none.1
    refine ⟨_, row, ?_, ?_, ?_, ?_⟩
    · refine congrArg (_ + ·) ((gains _).trans ?_)
      simp
    · exact congrArg (_ + ·) (gains _)
    · exact congrArg (_ + ·) (gains _)
    · exact congrArg (_ + ·) (gains _)

/-- Two writers look for the row in vain and insert it; the second one meets that of the first and
tries once more. -/
theorem second_writer_tries_again :
    let increments := [Increment.ofMessage .incoming true, .ofMessage .outgoing false]
    let reached := (gather {} increments).run "bot" ⟨0⟩ [0, 1, 0, 1, 1, 1, 0, 0]
    ((({} : Sql).rows "bot" ⟨0⟩).length ≤ 1) ∧
    (∀ index < increments.length, 4 ≤ [0, 1, 0, 1, 1, 1, 0, 0].count index) ∧
    reached.writers.map (·.phase) = [.finished 1, .finished 2] ∧
    ∃ count, reached.sql.rows "bot" ⟨0⟩ = [count] ∧ count.total = 2 ∧ count.incoming = 1 ∧
      count.outgoing = 1 ∧ count.uniqueUsers = 1 := by
  intro increments reached
  have once : (({} : Sql).rows "bot" ⟨0⟩).length ≤ 1 := by decide
  have turns : ∀ index < increments.length, 4 ≤ [0, 1, 0, 1, 1, 1, 0, 0].count index := by decide
  have phases : reached.writers.map (·.phase) = [.finished 1, .finished 2] := by decide
  obtain ⟨_, finish, adds, _⟩ :=
    concurrent_counts_add_up {} "bot" ⟨0⟩ increments once [0, 1, 0, 1, 1, 1, 0, 0]
  obtain ⟨count, row, total, incoming, outgoing, users⟩ :=
    adds (finish turns) (.inl (List.cons_ne_nil _ _))
  exact ⟨once, turns, phases, count, row, total, incoming, outgoing, users⟩

end Crowd

end Parley
