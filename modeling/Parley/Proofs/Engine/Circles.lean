import Mathlib
import Parley.Proofs.Engine.Cards
import Parley.Proofs.Engine.Walks
import Parley.Proofs.Storage.Content

/-!
Jumps that lead in a circle. In finitely many blocks a walk either stops, or enters some block a second
time and then goes round for ever; which of the two it is shows before the steps run out.
-/

namespace Parley

/-- A look-up answers what it was asked for, from a list of blocks. -/
structure FindBlock.FindsIn (blocks : List Block) (find : FindBlock) : Prop where
  faithful : find.Faithful
  listed : ∀ botId blockId block, find botId blockId = .ok (some block) → block ∈ blocks

/-- A place is at a card, or just after the last card, of a block of a bot that can be looked up. -/
def Cursor.Inside (find : FindBlock) (botId : String) : Cursor → Prop
  | .card block index =>
    0 ≤ index ∧ index ≤ block.cards.length ∧ find botId block.id = .ok (some block)
  | .node .. => False

def Transition.Inside (find : FindBlock) (botId : String) : Transition → Prop
  | .goto place => place.Inside find botId
  | _ => True

/-- The steps that a block can take when it is entered: one for each card, and one for the end. -/
def Block.due (visited : List String) (block : Block) : Nat :=
  if block.id ∈ visited then 0 else block.cards.length + 1

def allDue (blocks : List Block) (visited : List String) : Nat := (blocks.map (·.due visited)).sum

/-- How many steps can lie ahead before a block is entered twice. -/
def Transition.ahead (blocks : List Block) (visited : List String) : Transition → Nat
  | .goto (.card block index) =>
    allDue blocks visited + if index = 0 then 0 else (block.cards.length + 1 - index).toNat
  | _ => allDue blocks visited

@[simp] theorem Transition.ahead_card (blocks : List Block) (visited : List String) (block : Block)
    (index : Int) :
    (Transition.goto (.card block index)).ahead blocks visited =
      allDue blocks visited + if index = 0 then 0 else (block.cards.length + 1 - index).toNat := rfl

theorem Block.due_cons_le (block : Block) (blockId : String) (visited : List String) :
    block.due (blockId :: visited) ≤ block.due visited := by
  unfold Block.due
  by_cases seen : block.id ∈ visited
  · simp [seen]
  · simp only [seen, if_false]
    split <;> omega

theorem allDue_cons_le (blocks : List Block) (blockId : String) (visited : List String) :
    allDue blocks (blockId :: visited) ≤ allDue blocks visited := by
  induction blocks with
  | nil => exact Nat.le_refl 0
  | cons head rest ih =>
    have first := head.due_cons_le blockId visited
    simp only [allDue, List.map_cons, List.sum_cons] at ih ⊢
    omega

theorem allDue_of_visit {blocks : List Block} {visited : List String} {block : Block}
    (member : block ∈ blocks) (fresh : block.id ∉ visited) :
    allDue blocks (block.id :: visited) + (block.cards.length + 1) ≤ allDue blocks visited := by
  induction blocks with
  | nil => cases member
  | cons head rest ih =>
    have others := allDue_cons_le rest block.id visited
    have first := head.due_cons_le block.id visited
    simp only [allDue, List.map_cons, List.sum_cons] at ih others ⊢
    rcases List.mem_cons.mp member with rfl | later
    · have before : block.due visited = block.cards.length + 1 := if_neg fresh
      have after : block.due (block.id :: visited) = 0 := if_pos List.mem_cons_self
      omega
    · have rest := ih later
      omega

theorem allDue_nil (blocks : List Block) :
    allDue blocks [] = (blocks.map (·.cards.length)).sum + blocks.length := by
  induction blocks with
  | nil => rfl
  | cons head rest ih =>
    have due : head.due [] = head.cards.length + 1 := if_neg List.not_mem_nil
    simp only [allDue, List.map_cons, List.sum_cons, List.length_cons] at ih ⊢
    omega

theorem length_le_allDue {blocks : List Block} {block : Block} (member : block ∈ blocks) :
    block.cards.length + 1 ≤ allDue blocks [] :=
  Nat.le_of_add_left_le (allDue_of_visit member List.not_mem_nil)

variable {find : FindBlock} {context : Context} {botId : String} {blocks : List Block}

/-- All cards and all ends of blocks twice over are more than lies ahead of a turn. -/
theorem Transition.Inside.ahead_le {start : Transition} (finds : find.FindsIn blocks)
    (inside : start.Inside find botId) : start.ahead blocks [] ≤ 2 * allDue blocks [] := by
  cases start with
  | done | await =>
    simp only [Transition.ahead]
    omega
  | goto place =>
    cases place with
    | node flow node => exact inside.elim
    | card block index =>
      obtain ⟨nonneg, _, found⟩ := inside
      have room := length_le_allDue (finds.listed _ _ _ found)
      simp only [Transition.ahead]
      split <;> omega

@[simp] theorem Cursor.entered_card (block : Block) (index : Int) :
    (Cursor.card block index).entered = if index = 0 then some block.id else none := by
  unfold Cursor.entered
  by_cases first : index = 0
  · subst first
    rfl
  · rw [if_neg first]
    split
    · rename_i same
      cases same
      exact absurd rfl first
    · rfl

theorem FindBlock.Faithful.begins {blockId : String} {block : Block} (faithful : find.Faithful)
    (found : find botId blockId = .ok (some block)) : (Cursor.card block 0).Inside find botId := by
  refine ⟨Int.le_refl 0, Int.natCast_nonneg _, ?_⟩
  rw [(faithful _ _ _ found).1]
  exact found

theorem FindBlock.Faithful.arrives {blockId : String} {target : Option Block} (faithful : find.Faithful)
    (found : find botId blockId = .ok target) : (Block.arrive target).Inside find botId := by
  rcases Block.arrive_cases target with ⟨-, done⟩ | ⟨there, rfl, -, enters⟩
  · rw [done]
    trivial
  · rw [enters]
    exact faithful.begins found

/-! ### One step -/

theorem Block.Does.inside {block : Block} {index : Int} {taken : Step} (faithful : find.Faithful)
    (does : block.Does find context index taken)
    (inside : (Cursor.card block index).Inside find botId) : taken.next.Inside find botId := by
  obtain ⟨nonneg, _, here⟩ := inside
  have owned := (faithful _ _ _ here).2
  cases does with
  | past | asks | strays => trivial
  | shows at_ leadsOn =>
    have short := (Block.card?_eq_some nonneg at_).1
    exact ⟨by omega, by omega, here⟩
  | jumps at_ jumps found enabled =>
    rw [owned] at found
    exact faithful.begins found

theorem Block.Does.ahead_next (blocks : List Block) {block : Block} {index : Int} {taken : Step}
    (does : block.Does find context index taken) (visited : List String) :
    taken.next.ahead blocks visited ≤
      allDue blocks visited + (block.cards.length - index).toNat := by
  cases does with
  | shows =>
    simp only [Transition.ahead]
    split <;> omega
  | jumps => simp [Transition.ahead]
  | past | asks | strays =>
    simp only [Transition.ahead]
    omega

theorem Block.Does.ahead {block : Block} {index : Int} {taken : Step} {budget paid : Budget}
    (finds : find.FindsIn blocks) (does : block.Does find context index taken)
    (inside : (Cursor.card block index).Inside find botId)
    (charged : budget.charge (Cursor.card block index).entered = .ok paid) :
    taken.next.ahead blocks paid.visited + 1 ≤
      (Transition.goto (.card block index)).ahead blocks budget.visited := by
  obtain ⟨nonneg, short, here⟩ := inside
  obtain ⟨_, fresh, rfl⟩ := Budget.charge_ok charged
  rw [Cursor.entered_card] at fresh ⊢
  rw [Transition.ahead_card]
  by_cases first : index = 0
  · -- a block that is entered is not due any more
    subst first
    have rest := does.ahead_next blocks (block.id :: budget.visited)
    have visit := allDue_of_visit (finds.listed _ _ _ here) (fresh block.id rfl)
    simp only [if_true, Option.toList, List.cons_append, List.nil_append]
    omega
  · have rest := does.ahead_next blocks budget.visited
    simp only [first, if_false, Option.toList, List.nil_append]
    omega

/-! ### Walks -/

variable {start last : Transition} {trail : List Taken}

theorem Walk.inside (finds : find.FindsIn blocks) (walk : Walk find context start trail last)
    (inside : start.Inside find botId) : last.Inside find botId := by
  induction walk with
  | rest => exact inside
  | @step place taken trail last stepped _ ih =>
    cases place with
    | card block index => exact ih ((Block.does_of_step stepped).inside finds.faithful inside)
    | node flow node => exact inside.elim

theorem Cursor.Inside.able (context : Context) (answers : find.Answers) {place : Cursor}
    (inside : place.Inside find botId) : ∃ taken, Plan.step find context place = .ok taken := by
  cases place with
  | card block index =>
    have nonneg : 0 ≤ index + block.cards.length := by
      have first := inside.1
      omega
    obtain ⟨taken, does⟩ := Block.does_something context answers nonneg
    exact ⟨taken, Block.step_of_does does⟩
  | node flow node => exact inside.elim

theorem Spends.ahead {budget left : Budget} (finds : find.FindsIn blocks)
    (spends : Spends find context budget start trail left last) (inside : start.Inside find botId) :
    trail.length + last.ahead blocks left.visited ≤ start.ahead blocks budget.visited := by
  induction spends with
  | rest => simp
  | @step budget paid left place taken trail last charged stepped _ ih =>
    cases place with
    | card block index =>
      have does := Block.does_of_step stepped
      have first := does.ahead finds inside charged
      have rest := ih (does.inside finds.faithful inside)
      rw [List.length_cons]
      omega
    | node flow node => exact inside.elim

theorem Cursor.Inside.of_entered {place : Cursor} {blockId : String}
    (inside : place.Inside find botId) (enters : place.entered = some blockId) :
    ∃ block, place = .card block 0 ∧ find botId blockId = .ok (some block) := by
  cases place with
  | card block index =>
    rw [Cursor.entered_card] at enters
    by_cases first : index = 0
    · subst first
      cases enters
      exact ⟨block, rfl, inside.2.2⟩
    · rw [if_neg first] at enters
      cases enters
  | node flow node => exact inside.elim

theorem Walk.entered {blockId : String} (walk : Walk find context start trail last)
    (enters : blockId ∈ entries trail) :
    ∃ place before after, place.entered = some blockId ∧ 0 < after.length ∧
      Walk find context start before (.goto place) ∧ Walk find context (.goto place) after last := by
  obtain ⟨taken, member, first⟩ := List.mem_filterMap.mp enters
  obtain ⟨before, after, rfl⟩ := List.append_of_mem member
  have short : before.length ≤ (before ++ taken :: after).length := by simp
  obtain ⟨middle, reached, onward⟩ := walk.take short
  rw [List.take_left] at reached
  rw [List.drop_left] at onward
  cases onward with
  | step stepped rest =>
    exact ⟨_, before, _, first, by simp, reached, .step stepped rest⟩

/-- A walk that enters a block twice goes round for ever. -/
theorem Walk.endless_of_entered_twice {place : Cursor} {blockId : String}
    (finds : find.FindsIn blocks) (inside : start.Inside find botId)
    (walk : Walk find context start trail (.goto place)) (enters : place.entered = some blockId)
    (again : blockId ∈ entries trail) : Endless find context start := by
  obtain ⟨first, before, round, entered, moves, reached, returns⟩ := walk.entered again
  obtain ⟨block, rfl, found⟩ :=
    Cursor.Inside.of_entered (reached.inside finds inside) entered
  obtain ⟨other, rfl, found'⟩ := Cursor.Inside.of_entered (walk.inside finds inside) enters
  cases found.symm.trans found'
  -- from the first entry to the second one the walk is a loop
  exact reached.endless_of_endless (returns.endless_of_loop moves)

/-! ### Plans -/

theorem Spends.repeats {budget left : Budget} {place : Cursor} {failure : Failure}
    (finds : find.FindsIn blocks)
    (spends : Spends find context budget start trail left (.goto place))
    (inside : start.Inside find botId) (fresh : budget.visited = [])
    (enough : start.ahead blocks [] < budget.remaining)
    (refused : left.charge place.entered = .error failure) :
    ∃ blockId, place.entered = some blockId ∧ blockId ∈ entries trail ∧
      failure = .blockRepeated blockId (budget.steps + trail.length + 1) := by
  have paid := spends.ahead finds inside
  rw [fresh] at paid
  rcases spends.refused refused with ⟨spent, _⟩ | ⟨blockId, enters, seen, repeated⟩
  · omega
  · rw [fresh] at seen
    exact ⟨blockId, enters, by simpa using seen, repeated⟩

theorem Plan.repeats (finds : find.FindsIn blocks) (answers : find.Answers)
    (inside : start.Inside find botId) {budget : Budget} (fresh : budget.visited = [])
    (enough : start.ahead blocks [] < budget.remaining) {failure : Failure}
    (failed : (Plan.run find context budget start).ending = .failed failure) :
    Endless find context start ∧
      ∃ blockId steps, failure = .blockRepeated blockId steps := by
  obtain ⟨trail, left, last, follows⟩ := Plan.run_follows find context budget start
  have walk := follows.spends.walk
  have ends := follows.ends
  rw [failed] at ends
  cases ends with
  | unpaid refused =>
    obtain ⟨blockId, enters, again, repeated⟩ :=
      follows.spends.repeats finds inside fresh enough refused
    exact ⟨walk.endless_of_entered_twice finds inside enters again, blockId, _, repeated⟩
  | stuck stuck =>
    obtain ⟨taken, stepped⟩ := Cursor.Inside.able context answers
      (walk.inside finds inside)
    cases stepped.symm.trans stuck

theorem Plan.limited_iff_endless (finds : find.FindsIn blocks) (answers : find.Answers)
    (inside : start.Inside find botId) {budget : Budget} (fresh : budget.visited = [])
    (enough : start.ahead blocks [] < budget.remaining) :
    (Plan.run find context budget start).Limited ↔ Endless find context start := by
  constructor
  · rintro ⟨failure, failed, _⟩
    exact (Plan.repeats finds answers inside fresh enough failed).1
  · exact Plan.limited_of_endless fun trail place walk =>
      Cursor.Inside.able context answers (walk.inside finds inside)

/-- In the blocks of a bot a walk that does not go on for ever comes to a stop. -/
theorem endless_iff_never_stops (finds : find.FindsIn blocks) (answers : find.Answers)
    (inside : start.Inside find botId) :
    Endless find context start ↔
      ¬ ∃ trail last, Walk find context start trail last ∧ last.Stops := by
  constructor
  · rintro endless ⟨trail, last, walk, stops⟩
    exact walk.not_endless_of_stops stops endless
  · intro never count
    induction count with
    | zero =>
      cases start with
      | goto place => exact ⟨[], place, rfl, .rest _⟩
      | done | await => exact absurd ⟨[], _, .rest _, trivial⟩ never
    | succ count ih =>
      obtain ⟨trail, place, length, walk⟩ := ih
      obtain ⟨taken, stepped⟩ := Cursor.Inside.able context answers
        (walk.inside finds inside)
      have longer := walk.append (.step stepped (.rest taken.next))
      cases next : taken.next with
      | goto there =>
        rw [next] at longer
        exact ⟨_, there, by simp [length], longer⟩
      | done | await =>
        rw [next] at longer
        exact absurd ⟨_, _, longer, trivial⟩ never

end Parley
