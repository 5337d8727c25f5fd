import Parley.Proofs.Engine.Grounding

/-!
What a step in a block does: it shows a card and goes on to the next one, asks a question, jumps to
another block, or finds that the cards are over.
-/

namespace Parley

/-- What a card sends and waits for before the cards go on. -/
def CardContent.effects (context : Context) : CardContent → List Effect
  | .text body => sendText (context.fill body)
  | .image shown => shown.effects context
  | .gallery shown => [.send (.card (shown.outbound context))]
  | .quickReply body buttons =>
    if context.fill body = "" then []
    else [.send (.quickReplies ⟨context.fill body, buttons.map (·.outbound)⟩)]
  | .delay pause => [.wait pause]
  | .userInput .. => []
  | .goToBlock .. => []

def CardContent.leadsOn : CardContent → Bool
  | .userInput .. => false
  | .goToBlock .. => false
  | _ => true

/-- The card at a place; a negative index counts from the last card. -/
def Block.card? (block : Block) (index : Int) : Option Card :=
  if block.place index < 0 then none else block.cards[(block.place index).toNat]?

theorem Block.place_of_nonneg {block : Block} {index : Int} (nonneg : 0 ≤ index) :
    block.place index = index := if_neg (Int.not_lt.mpr nonneg)

theorem Block.card?_eq_none {block : Block} {index : Int} :
    block.card? index = none ↔
      (block.cards.length : Int) ≤ index ∨ index + block.cards.length < 0 := by
  unfold Block.card? Block.place
  by_cases negative : index < 0
  · by_cases before : (block.cards.length : Int) + index < 0
    · simp [negative, before]
      omega
    · have inside : ((block.cards.length : Int) + index).toNat < block.cards.length := by omega
      simp only [negative, before, if_true, if_false, List.getElem?_eq_none_iff]
      omega
  · simp only [negative, if_false, List.getElem?_eq_none_iff]
    omega

theorem Block.card?_eq_some {block : Block} {index : Int} {card : Card} (nonneg : 0 ≤ index)
    (at_ : block.card? index = some card) :
    index < block.cards.length ∧ card ∈ block.cards := by
  unfold Block.card? at at_
  rw [Block.place_of_nonneg nonneg, if_neg (Int.not_lt.mpr nonneg)] at at_
  obtain ⟨inside, _⟩ := List.getElem?_eq_some_iff.mp at_
  exact ⟨by omega, List.mem_of_getElem? at_⟩

inductive Block.Does (find : FindBlock) (context : Context) (block : Block) (index : Int) :
    Step → Prop where
  | past (beyond : (block.cards.length : Int) ≤ index) : Does find context block index { next := .done }
  | shows {card : Card} (at_ : block.card? index = some card)
    (leadsOn : card.content.leadsOn = true) :
    Does find context block index
      { effects := card.content.effects context, next := .goto (.card block (index + 1)) }
  | asks {card : Card} {prompt variableName : String} {nextBlockId : Option String}
    (at_ : block.card? index = some card)
    (asks : card.content = .userInput prompt variableName nextBlockId) :
    Does find context block index
      { next := .await (.card block index) (some (context.fill prompt)) }
  | jumps {card : Card} {blockId : String} {target : Block} (at_ : block.card? index = some card)
    (jumps : card.content = .goToBlock blockId)
    (found : find block.botId blockId = .ok (some target)) (enabled : target.isEnabled = true) :
    Does find context block index { next := .goto (.card target 0) }
  | strays {card : Card} {blockId : String} {target : Option Block}
    (at_ : block.card? index = some card) (jumps : card.content = .goToBlock blockId)
    (found : find block.botId blockId = .ok target)
    (gone : target.filter (·.isEnabled) = none) :
    Does find context block index { next := .done }

variable {find : FindBlock} {context : Context} {block : Block} {index : Int}

/-! ### Steps by their cards -/

theorem Block.step_of_before (before : index + block.cards.length < 0) :
    block.step find context index = .error (.noCard block.id index) := by
  have negative : index < 0 := by omega
  have place : block.place index < 0 := by simp only [Block.place, negative, if_true]; omega
  unfold Block.step
  rw [if_pos place]
  rfl

theorem Block.step_of_past (beyond : (block.cards.length : Int) ≤ index) :
    block.step find context index = .ok { next := .done } := by
  have nonneg : 0 ≤ index := by omega
  have none : block.cards[index.toNat]? = none := by rw [List.getElem?_eq_none_iff]; omega
  unfold Block.step
  rw [Block.place_of_nonneg nonneg, if_neg (Int.not_lt.mpr nonneg), none]
  rfl

theorem Block.step_of_card {card : Card} (at_ : block.card? index = some card) :
    block.step find context index =
      match card.content with
      | .userInput prompt _ _ =>
        .ok { next := .await (.card block index) (some (context.fill prompt)) }
      | .goToBlock blockId => (block.jump find blockId).map ({ next := · })
      | content =>
        .ok { effects := content.effects context, next := .goto (.card block (index + 1)) } := by
  unfold Block.card? at at_
  split at at_
  · cases at_
  · rename_i place
    unfold Block.step
    rw [if_neg place, at_]
    dsimp only
    cases content : card.content with
    | quickReply text buttons =>
      dsimp only [CardContent.effects]
      split <;> rfl
    | goToBlock blockId =>
      dsimp only
      cases block.jump find blockId <;> rfl
    | text | image | gallery | userInput | delay => rfl

theorem Block.step_of_does {taken : Step} (does : block.Does find context index taken) :
    block.step find context index = .ok taken := by
  cases does with
  | past beyond => exact Block.step_of_past beyond
  | @shows card at_ leadsOn =>
    rw [Block.step_of_card at_]
    cases content : card.content with
    | userInput | goToBlock =>
      rw [content] at leadsOn
      cases leadsOn
    | text | image | gallery | quickReply | delay => rfl
  | asks at_ asks => rw [Block.step_of_card at_, asks]
  | jumps at_ jumps found enabled =>
    rw [Block.step_of_card at_, jumps]
    simp only [Block.jump_eq, found, Except.map, Block.arrive_of_enabled enabled]
  | strays at_ jumps found gone =>
    rw [Block.step_of_card at_, jumps]
    simp only [Block.jump_eq, found, Except.map, Block.arrive_of_gone gone]

theorem Block.does_of_step {taken : Step} (stepped : block.step find context index = .ok taken) :
    block.Does find context index taken := by
  cases at_ : block.card? index with
  | none =>
    rcases Block.card?_eq_none.mp at_ with beyond | before
    · cases (Block.step_of_past beyond).symm.trans stepped
      exact .past beyond
    · cases (Block.step_of_before before).symm.trans stepped
  | some card =>
    rw [Block.step_of_card at_] at stepped
    have shown (leadsOn : card.content.leadsOn = true) : block.Does find context index
        { effects := card.content.effects context, next := .goto (.card block (index + 1)) } :=
      .shows at_ leadsOn
    cases content : card.content with
    | userInput prompt variableName nextBlockId =>
      rw [content] at stepped
      cases stepped
      exact .asks at_ content
    | goToBlock blockId =>
      rw [content] at stepped
      cases jumps : block.jump find blockId with
      | error failure =>
        simp only [jumps] at stepped
        cases stepped
      | ok next =>
        simp only [jumps] at stepped
        cases stepped
        obtain ⟨target, found, rfl⟩ := Block.jump_ok jumps
        rcases Block.arrive_cases target with ⟨gone, done⟩ | ⟨there, rfl, enabled, enters⟩
        · rw [done]
          exact .strays at_ content found gone
        · rw [enters]
          exact .jumps at_ content found enabled
    | text | image | gallery | quickReply | delay =>
      rw [content] at stepped shown
      cases stepped
      exact shown rfl

/-! ### Steps that can be taken -/

def FindBlock.Answers (find : FindBlock) : Prop :=
  ∀ botId blockId, ∃ found, find botId blockId = .ok found

theorem Block.does_something (context : Context) (answers : find.Answers) (inside : 0 ≤ index + block.cards.length) :
    ∃ taken, block.Does find context index taken := by
  cases at_ : block.card? index with
  | none =>
    rcases Block.card?_eq_none.mp at_ with beyond | before
    · exact ⟨_, .past beyond⟩
    · omega
  | some card =>
    cases leadsOn : card.content.leadsOn with
    | true => exact ⟨_, .shows at_ leadsOn⟩
    | false =>
      cases content : card.content with
      | userInput prompt variableName nextBlockId => exact ⟨_, .asks at_ content⟩
      | goToBlock blockId =>
        obtain ⟨target, found⟩ := answers block.botId blockId
        cases here : target.filter (·.isEnabled) with
        | none => exact ⟨_, .strays at_ content found here⟩
        | some there =>
          obtain ⟨rfl, enabled⟩ := Option.filter_eq_some_iff.mp here
          exact ⟨_, .jumps at_ content found enabled⟩
      | text | image | gallery | quickReply | delay =>
        rw [content] at leadsOn
        cases leadsOn

end Parley
