import Parley.Proofs.Engine.Cards
import Parley.Proofs.Engine.Walks

/-!
What the cards of a block come to when they are read one by one, across jumps and without counting
steps. A plan that keeps within its limits has exactly the effects and the ending that are read.
-/

namespace Parley

inductive Block.Reads (find : FindBlock) (context : Context) :
    Block → Int → List Effect → Ending → Prop where
  | past {block : Block} {index : Int} (beyond : (block.cards.length : Int) ≤ index) :
    Reads find context block index [] .finished
  /-- Counted from the last card, there is no card so far away. -/
  | before {block : Block} {index : Int} (before : index + block.cards.length < 0) :
    Reads find context block index [] (.failed (.noCard block.id index))
  | shows {block : Block} {index : Int} {card : Card} {effects : List Effect} {ending : Ending}
    (at_ : block.card? index = some card) (leadsOn : card.content.leadsOn = true)
    (rest : Reads find context block (index + 1) effects ending) :
    Reads find context block index (card.content.effects context ++ effects) ending
  | asks {block : Block} {index : Int} {card : Card} {prompt variableName : String}
    {nextBlockId : Option String} (at_ : block.card? index = some card)
    (asks : card.content = .userInput prompt variableName nextBlockId) :
    Reads find context block index (sendText (context.fill prompt)) (.parked (.card block index))
  | jumps {block target : Block} {index : Int} {card : Card} {blockId : String}
    {effects : List Effect} {ending : Ending} (at_ : block.card? index = some card)
    (jumps : card.content = .goToBlock blockId)
    (found : find block.botId blockId = .ok (some target)) (enabled : target.isEnabled = true)
    (rest : Reads find context target 0 effects ending) :
    Reads find context block index effects ending
  | strays {block : Block} {index : Int} {card : Card} {blockId : String} {target : Option Block}
    (at_ : block.card? index = some card) (jumps : card.content = .goToBlock blockId)
    (found : find block.botId blockId = .ok target)
    (gone : target.filter (·.isEnabled) = none) :
    Reads find context block index [] .finished

variable {find : FindBlock} {context : Context} {block : Block} {index : Int} {budget : Budget}

/-! ### Plans, step by step -/

theorem Plan.run_done : Plan.run find context budget .done = { ending := .finished } := by
  rw [Plan.run]

theorem Plan.run_await (cursor : Cursor) (prompt : Option String) :
    Plan.run find context budget (.await cursor prompt) =
      { effects := sendText (prompt.getD ""), ending := .parked cursor } := by
  rw [Plan.run]
  rfl

theorem Plan.run_refused {place : Cursor} {failure : Failure}
    (refused : budget.charge place.entered = .error failure) :
    Plan.run find context budget (.goto place) = Plan.failed failure := by
  rw [Plan.run]
  split
  · rename_i again
    cases refused.symm.trans again
    rfl
  · rename_i charged
    cases refused.symm.trans charged

theorem Plan.run_stuck {paid : Budget} {place : Cursor} {failure : Failure}
    (charged : budget.charge place.entered = .ok paid)
    (failed : Plan.step find context place = .error failure) :
    Plan.run find context budget (.goto place) = Plan.failed failure := by
  rw [Plan.run]
  split
  · rename_i refused
    cases charged.symm.trans refused
  · rw [failed]

theorem Plan.charged_of_unlimited {place : Cursor}
    (unlimited : ¬ (Plan.run find context budget (.goto place)).Limited) :
    ∃ paid, budget.charge place.entered = .ok paid := by
  cases charged : budget.charge place.entered with
  | ok paid => exact ⟨paid, rfl⟩
  | error failure =>
    refine absurd ⟨failure, ?_, Budget.charge_error_isLimit charged⟩ unlimited
    rw [Plan.run_refused charged]
    rfl

theorem Plan.run_block_step {taken : Step} (does : block.Does find context index taken)
    (unlimited : ¬ (Plan.run find context budget (.goto (.card block index))).Limited) :
    ∃ paid : Budget, Plan.run find context budget (.goto (.card block index)) =
        (Plan.run find context paid taken.next).after taken.effects ∧
      ¬ (Plan.run find context paid taken.next).Limited := by
  obtain ⟨paid, charged⟩ := Plan.charged_of_unlimited unlimited
  have run := Plan.run_goto charged
    (show Plan.step find context (.card block index) = .ok taken from Block.step_of_does does)
  rw [run] at unlimited
  exact ⟨paid, run, unlimited⟩

/-! ### Plans are what is read -/

theorem Block.Reads.plan {effects : List Effect} {ending : Ending}
    (reads : block.Reads find context index effects ending)
    (unlimited : ¬ (Plan.run find context budget (.goto (.card block index))).Limited) :
    Plan.run find context budget (.goto (.card block index)) = { effects, ending } := by
  induction reads generalizing budget with
  | past beyond =>
    obtain ⟨paid, run, _⟩ := Plan.run_block_step (.past beyond) unlimited
    rw [run, Plan.run_done]
    rfl
  | before before =>
    obtain ⟨paid, charged⟩ := Plan.charged_of_unlimited unlimited
    exact Plan.run_stuck charged (Block.step_of_before before)
  | shows at_ leadsOn _ ih =>
    obtain ⟨paid, run, onward⟩ := Plan.run_block_step (.shows at_ leadsOn) unlimited
    rw [run, ih onward]
    rfl
  | asks at_ asks =>
    obtain ⟨paid, run, _⟩ := Plan.run_block_step (.asks at_ asks) unlimited
    rw [run, Plan.run_await]
    rfl
  | jumps at_ jumps found enabled _ ih =>
    obtain ⟨paid, run, onward⟩ := Plan.run_block_step (.jumps at_ jumps found enabled) unlimited
    rw [run, ih onward]
    rfl
  | strays at_ jumps found gone =>
    obtain ⟨paid, run, _⟩ := Plan.run_block_step (.strays at_ jumps found gone) unlimited
    rw [run, Plan.run_done]
    rfl

theorem Plan.reads (answers : find.Answers) {start : Transition}
    (cards : start = .goto (.card block index))
    (unlimited : ¬ (Plan.run find context budget start).Limited) :
    block.Reads find context index (Plan.run find context budget start).effects
      (Plan.run find context budget start).ending := by
  -- the induction follows the run, from the places to which the cards of a block lead
  fun_induction Plan.run find context budget start generalizing block index with
  | case1 => cases cards
  | case2 => cases cards
  | case3 budget place failure refused =>
    exact absurd ⟨failure, rfl, Budget.charge_error_isLimit refused⟩ unlimited
  | case4 budget place paid charged failure failed =>
    cases cards
    by_cases before : index + block.cards.length < 0
    · cases (Block.step_of_before before).symm.trans failed
      exact .before before
    · obtain ⟨taken, does⟩ := Block.does_something context answers (Int.not_lt.mp before)
      cases (Block.step_of_does does).symm.trans failed
  | case5 budget place paid charged taken stepped less ih =>
    cases cards
    cases Block.does_of_step stepped with
    | past beyond =>
      rw [Plan.run_done]
      exact .past beyond
    | shows at_ leadsOn => exact .shows at_ leadsOn (ih rfl unlimited)
    | asks at_ asks =>
      rw [Plan.run_await]
      exact .asks at_ asks
    | jumps at_ jumps found enabled => exact .jumps at_ jumps found enabled (ih rfl unlimited)
    | strays at_ jumps found gone =>
      rw [Plan.run_done]
      exact .strays at_ jumps found gone

theorem Plan.reads_iff (answers : find.Answers)
    (unlimited : ¬ (Plan.run find context budget (.goto (.card block index))).Limited)
    (effects : List Effect) (ending : Ending) :
    block.Reads find context index effects ending ↔
      Plan.run find context budget (.goto (.card block index)) = { effects, ending } := by
  refine ⟨fun reads => reads.plan unlimited, fun run => ?_⟩
  have reads := Plan.reads answers rfl unlimited
  rwa [run] at reads

end Parley
