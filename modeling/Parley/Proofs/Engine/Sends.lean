import Parley.Proofs.Engine.Cards
import Parley.Proofs.Engine.Walks

/-!
What a plan sends: each step that it takes sends at most two messages, or makes one pause, and some of
the messages say nothing.
-/

namespace Parley

theorem sendText_length (text : String) : (sendText text).length ≤ 1 := by
  unfold sendText
  split
  · exact Nat.zero_le 1
  · exact Nat.le_refl 1

theorem Picture.effects_length (context : Context) (picture : Picture) :
    (picture.effects context).length ≤ 2 := by
  unfold Picture.effects
  split
  · exact Nat.zero_le 2
  · cases context.fill? picture.caption with
    | none => exact Nat.le_succ 1
    | some caption => exact Nat.le_refl 2

theorem Transition.prompt_length (transition : Transition) : transition.prompt.length ≤ 1 := by
  cases transition with
  | await cursor prompt => exact sendText_length _
  | goto | done => exact Nat.zero_le 1

/-! ### One step -/

theorem CardContent.effects_length (context : Context) (content : CardContent) :
    (content.effects context).length ≤ 2 := by
  cases content with
  | text body => exact Nat.le_succ_of_le (sendText_length _)
  | image shown => exact shown.effects_length context
  | quickReply body buttons =>
    by_cases empty : context.fill body = "" <;> simp [CardContent.effects, empty]
  | gallery | delay => exact Nat.le_succ 1
  | userInput | goToBlock => exact Nat.zero_le 2

theorem Block.Does.effects_length {find : FindBlock} {context : Context} {block : Block} {index : Int}
    {taken : Step} (does : block.Does find context index taken) :
    taken.effects.length + taken.next.prompt.length ≤ 2 := by
  cases does with
  | @shows card at_ leadsOn => exact card.content.effects_length context
  | past | jumps | strays => exact Nat.zero_le 2
  | asks =>
    rw [List.length_nil, Nat.zero_add]
    exact Nat.le_succ_of_le (Transition.prompt_length _)

theorem Flow.follow_prompt (flow : Flow) (context : Context) (node : Node) :
    (flow.follow context node).prompt = [] := by
  unfold Flow.follow
  split <;> rfl

theorem Flow.step_effects_length (flow : Flow) (context : Context) (node : Node) :
    (flow.step context node).effects.length + (flow.step context node).next.prompt.length ≤ 2 := by
  have silent := flow.follow_prompt context node
  cases content : node.content with
  | start | condition | card | delay => simp [Flow.step, content, silent]
  | text message =>
    by_cases empty : message = "" <;> simp [Flow.step, content, silent, empty]
  | image picture =>
    have few := picture.effects_length context
    simpa [Flow.step, content, silent] using few
  | quickReply message buttons =>
    by_cases empty : message = "" ∨ buttons = [] <;> simp [Flow.step, content, silent, empty]
  | userInput prompt variableName =>
    have asked := (flow.step context node).next.prompt_length
    simp only [Flow.step, content, List.length_nil] at asked ⊢
    omega
  | finish => simp [Flow.step, content, Transition.prompt]

theorem Plan.step_effects_length {find : FindBlock} {context : Context} {place : Cursor} {taken : Step}
    (stepped : Plan.step find context place = .ok taken) :
    taken.effects.length + taken.next.prompt.length ≤ 2 := by
  cases place with
  | card block index => exact (Block.does_of_step stepped).effects_length
  | node flow node =>
    cases stepped
    exact flow.step_effects_length context node

/-! ### Walks -/

theorem Walk.effects_length {find : FindBlock} {context : Context} {start last : Transition}
    {trail : List Taken} (walk : Walk find context start trail last) :
    (trailEffects trail ++ last.prompt).length ≤ 2 * trail.length + start.prompt.length := by
  induction walk with
  | rest => simp [trailEffects]
  | @step place taken trail last stepped _ ih =>
    have few := Plan.step_effects_length stepped
    simp only [trailEffects, List.flatMap_cons, List.length_append, List.length_cons] at ih ⊢
    omega

/-! ## Hollow messages

Messages that say nothing, and the cards and nodes that send them. Those check some of their texts
before variables are filled in, and cards offer quick replies even if there are none.
-/

/-- An empty text, an image without address, or quick replies without text or without a button. -/
def Message.isHollow : Message → Bool
  | .text said => said = ""
  | .image url => url = ""
  | .quickReplies replies => replies.message = "" || replies.buttons.isEmpty
  | .card _ => false

def Effect.isHollow : Effect → Bool
  | .send message => message.isHollow
  | .wait _ => false

/-! ### Slips -/

/-- The image has a caption that comes to nothing. -/
def Picture.slips (context : Context) (picture : Picture) : Bool :=
  picture.url ≠ "" && (nonEmpty picture.caption).any (context.fill · = "")

def CardContent.slips (context : Context) : CardContent → Bool
  | .image picture => picture.slips context
  | .quickReply body buttons => context.fill body ≠ "" && buttons.isEmpty
  | _ => false

def NodeContent.slips (context : Context) : NodeContent → Bool
  | .text message => message ≠ "" && context.fill message = ""
  | .image picture => picture.slips context
  | .quickReply message buttons =>
    message ≠ "" && !buttons.isEmpty && context.fill message = ""
  | _ => false

/-- What stands at a place sends a hollow message. -/
def Cursor.slips (context : Context) : Cursor → Bool
  | .card block index => (block.card? index).any (·.content.slips context)
  | .node _ place => place.content.slips context

/-! ### Steps -/

variable {context : Context}

theorem sendText_hollow (text : String) : (sendText text).countP (·.isHollow) = 0 := by
  unfold sendText
  split
  · rfl
  · rename_i said
    simp [Effect.isHollow, Message.isHollow, said]

theorem Transition.prompt_hollow (transition : Transition) :
    transition.prompt.countP (·.isHollow) = 0 := by
  cases transition with
  | await cursor prompt => exact sendText_hollow _
  | goto | done => rfl

theorem Picture.effects_hollow (picture : Picture) :
    (picture.effects context).countP (·.isHollow) = (picture.slips context).toNat := by
  by_cases empty : picture.url = ""
  · simp [Picture.effects, Picture.slips, empty]
  · cases caption : nonEmpty picture.caption with
    | none =>
      simp [Picture.effects, Picture.slips, empty, caption, Context.fill?, Effect.isHollow,
        Message.isHollow]
    | some text =>
      by_cases vanishes : context.fill text = "" <;>
        simp [Picture.effects, Picture.slips, empty, caption, Context.fill?, Effect.isHollow,
          Message.isHollow, vanishes]

theorem CardContent.effects_hollow (content : CardContent) :
    (content.effects context).countP (·.isHollow) = (content.slips context).toNat := by
  cases content with
  | text body => exact sendText_hollow _
  | image picture => exact picture.effects_hollow
  | quickReply body buttons =>
    by_cases vanishes : context.fill body = "" <;> cases buttons <;>
      simp [CardContent.effects, CardContent.slips, Effect.isHollow, Message.isHollow, vanishes]
  | gallery | delay | userInput | goToBlock => rfl

theorem Block.Does.hollow {find : FindBlock} {block : Block} {index : Int} {taken : Step}
    (does : block.Does find context index taken) :
    taken.effects.countP (·.isHollow) = ((Cursor.card block index).slips context).toNat := by
  cases does with
  | past beyond => simp [Cursor.slips, Block.card?_eq_none.mpr (.inl beyond)]
  | @shows card at_ leadsOn =>
    rw [card.content.effects_hollow, Cursor.slips, at_, Option.any_some]
  | asks at_ content | jumps at_ content | strays at_ content =>
    simp [Cursor.slips, at_, content, CardContent.slips]

theorem Flow.step_hollow (flow : Flow) (node : Node) :
    (flow.step context node).effects.countP (·.isHollow) =
      ((Cursor.node flow node).slips context).toNat := by
  cases content : node.content with
  | start | condition | card | delay | userInput | finish =>
    simp [Flow.step, Cursor.slips, NodeContent.slips, content, Effect.isHollow, Message.isHollow]
  | text message =>
    by_cases empty : message = "" <;> by_cases vanishes : context.fill message = "" <;>
      simp [Flow.step, Cursor.slips, NodeContent.slips, content, Effect.isHollow, Message.isHollow,
        empty, vanishes]
  | image picture =>
    have shown : _ = (picture.slips context).toNat := picture.effects_hollow
    simpa [Flow.step, Cursor.slips, NodeContent.slips, content] using shown
  | quickReply message buttons =>
    by_cases empty : message = "" <;> by_cases vanishes : context.fill message = "" <;>
      cases buttons <;>
        simp [Flow.step, Cursor.slips, NodeContent.slips, content, Effect.isHollow,
          Message.isHollow, empty, vanishes]

theorem Plan.step_hollow {find : FindBlock} {place : Cursor} {taken : Step}
    (stepped : Plan.step find context place = .ok taken) :
    taken.effects.countP (·.isHollow) = (place.slips context).toNat := by
  cases place with
  | card block index => exact (Block.does_of_step stepped).hollow
  | node flow node =>
    cases stepped
    exact flow.step_hollow node

/-! ### Walks -/

/-- Each slip on a walk is one hollow message, and there are no others. -/
theorem Walk.hollow {find : FindBlock} {start last : Transition} {trail : List Taken}
    (walk : Walk find context start trail last) :
    (trailEffects trail ++ last.prompt).countP (·.isHollow) =
      trail.countP (·.place.slips context) := by
  induction walk with
  | rest start => exact start.prompt_hollow
  | @step place taken trail last stepped _ ih =>
    have first := Plan.step_hollow stepped
    rw [trailEffects, List.flatMap_cons, List.append_assoc, List.countP_append, first,
      List.countP_cons, Nat.add_comm]
    cases place.slips context <;> exact congrArg (· + _) ih

end Parley
