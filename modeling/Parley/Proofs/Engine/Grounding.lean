import Parley.Engine.Plan

/-!
Where a plan can park. A plan that starts in blocks and flows of some kind goes on in such blocks and
flows, if no jump leads out of them, and parks only at a question.
-/

namespace Parley

/-- A block that says some texts and asks nothing. -/
def Block.Plain (block : Block) : Prop :=
  ∀ card ∈ block.cards, ∃ text, card.content = .text text

def Cursor.Asks : Cursor → Prop
  | .card block index => (block.input? index).isSome
  | .node _ current => ∃ prompt variableName, current.content = .userInput prompt variableName

variable {blocks : Block → Prop} {flows : Flow → Prop} {find : FindBlock} {context : Context}

/-- Where a jump leads that finds its target, if that is there and enabled. -/
def Block.arrive (target : Option Block) : Transition :=
  match target.filter (·.isEnabled) with
  | some target => target.begin
  | none => .done

theorem Block.arrive_of_enabled {target : Block} (enabled : target.isEnabled = true) :
    Block.arrive (some target) = .goto (.card target 0) := by
  have here : (some target).filter (·.isEnabled) = some target := if_pos enabled
  simp only [Block.arrive, here, Block.begin]

theorem Block.arrive_of_gone {target : Option Block} (gone : target.filter (·.isEnabled) = none) :
    Block.arrive target = .done := by
  simp only [Block.arrive, gone]

theorem Block.arrive_cases (target : Option Block) :
    target.filter (·.isEnabled) = none ∧ Block.arrive target = .done ∨
      ∃ block, target = some block ∧ block.isEnabled = true ∧
        Block.arrive target = .goto (.card block 0) := by
  cases here : target.filter (·.isEnabled) with
  | none => exact Or.inl ⟨rfl, Block.arrive_of_gone here⟩
  | some block =>
    obtain ⟨rfl, enabled⟩ := Option.filter_eq_some_iff.mp here
    exact Or.inr ⟨block, rfl, enabled, Block.arrive_of_enabled enabled⟩

theorem Block.jump_eq (find : FindBlock) (source : Block) (blockId : String) :
    source.jump find blockId = (find source.botId blockId).map Block.arrive := by
  unfold Block.jump Block.target?
  cases find source.botId blockId with
  | error failure => rfl
  | ok found =>
    simp only [Bind.bind, Except.bind, Pure.pure, Except.pure, Except.map, Block.arrive]
    cases found.filter (·.isEnabled) <;> rfl

theorem Block.jump_ok {source : Block} {blockId : String} {next : Transition}
    (jumps : source.jump find blockId = .ok next) :
    ∃ target, find source.botId blockId = .ok target ∧ next = Block.arrive target := by
  rw [Block.jump_eq] at jumps
  cases found : find source.botId blockId with
  | error failure =>
    rw [found] at jumps
    cases jumps
  | ok target =>
    rw [found] at jumps
    cases jumps
    exact ⟨target, rfl, rfl⟩

theorem Plan.run_goto {budget paid : Budget} {cursor : Cursor} {taken : Step}
    (charged : budget.charge cursor.entered = .ok paid)
    (stepped : Plan.step find context cursor = .ok taken) :
    Plan.run find context budget (.goto cursor) =
      (Plan.run find context paid taken.next).after taken.effects := by
  rw [Plan.run]
  split
  · rename_i failed
    cases charged.symm.trans failed
  · rename_i again
    cases charged.symm.trans again
    rw [stepped]

end Parley
