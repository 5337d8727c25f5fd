import Parley.Proofs.Engine.Grounding
import Parley.Proofs.Storage.Content
import Parley.Proofs.Turn.Choosing

/-!
Questions on which a session is parked. The next message answers the question, and the turn goes on
where the question leads.
-/

namespace Parley

open Storage (Part SameBut Becomes)

/-! ### Questions of blocks -/

/-- A question of a block, with the variable for its answer and the block to which it leads. -/
structure CardQuestion where
  block : Block
  index : Int
  variableName : String
  nextBlockId : Option String

/-- Where a question leads: to the block that it names, if that is there and enabled, or to the next
card. -/
def CardQuestion.next (question : CardQuestion) (find : FindBlock) : Except Failure Transition :=
  match nonEmpty question.nextBlockId with
  | some blockId => (find question.block.botId blockId).map Block.arrive
  | none => .ok (.goto (.card question.block (question.index + 1)))

def CardQuestion.answer (question : CardQuestion) (text : String) (context : Context) : Context :=
  context.set question.variableName (Reply.clean text)

/-- A session is parked on a question of a block. -/
structure Storage.AsksCard (storage : Storage) (session : Session) (question : CardQuestion) :
    Prop where
  block : session.currentBlockId = some question.block.id
  card : session.currentCardIndex = question.index
  found : storage.findBlock session.botId question.block.id = .ok (some question.block)
  posed : question.block.input? question.index = some (question.variableName, question.nextBlockId)

theorem Block.input?_nonneg {block : Block} {index : Int} (posed : (block.input? index).isSome) :
    0 ≤ index := by
  unfold Block.input? at posed
  split at posed
  · cases posed
  · omega

theorem Block.input?_lt {block : Block} {index : Int} (posed : (block.input? index).isSome) :
    index < block.cards.length := by
  have nonneg := Block.input?_nonneg posed
  rw [Block.input?, if_neg (Int.not_lt.mpr nonneg)] at posed
  cases card : block.cards[index.toNat]? with
  | none =>
    rw [card] at posed
    cases posed
  | some card =>
    obtain ⟨inside, _⟩ := List.getElem?_eq_some_iff.mp card
    omega

/-! ### Questions of flows -/

/-- A question of a flow, with the variable for its answer. -/
structure NodeQuestion where
  flow : Flow
  node : Node
  variableName : String

/-- Where a question leads: along the first edge that leaves it. -/
def NodeQuestion.next (question : NodeQuestion) : Transition :=
  match (question.flow.edges.find? (·.source = question.node.id)).bind fun edge =>
      question.flow.node? edge.target with
  | some target => .goto (.node question.flow target)
  | none => .done

theorem NodeQuestion.follow_eq {prompt : String} (question : NodeQuestion) (context : Context)
    (posed : question.node.content = .userInput prompt question.variableName) :
    question.flow.follow context question.node = question.next := by
  have edge : question.flow.edge? context question.node =
      question.flow.edges.find? (·.source = question.node.id) := by
    simp only [Flow.edge?, posed]
  have next : question.flow.next? context question.node =
      (question.flow.edges.find? (·.source = question.node.id)).bind fun edge =>
        question.flow.node? edge.target := by
    rw [Flow.next?, edge]
  cases target : question.flow.next? context question.node with
  | none =>
    rw [target] at next
    rw [Flow.follow, target, NodeQuestion.next, ← next]
  | some target' =>
    rw [target] at next
    rw [Flow.follow, target, NodeQuestion.next, ← next]

/-- An answer is kept if the question names a variable. -/
def NodeQuestion.answer (question : NodeQuestion) (text : String) (context : Context) : Context :=
  if question.variableName = "" then context
  else context.set question.variableName (Reply.clean text)

/-- A session is parked on a question of a flow, and not in a block that is there. -/
structure Storage.AsksNode (storage : Storage) (session : Session) (question : NodeQuestion) :
    Prop where
  outside : ∀ blockId, session.currentBlockId = some blockId →
    storage.findBlock session.botId blockId = .ok none
  node : session.currentNodeId = some question.node.id
  flow : (outcome session.parkedFlow storage).1 = .ok (some question.flow)
  found : question.flow.node? question.node.id = some question.node
  posed : ∃ prompt, question.node.content = .userInput prompt question.variableName

namespace Turn

variable {storage : Storage} {session : Session} {text : String} {context : Context}

/-! ### Answering a question of a block -/

theorem resumeBlock_of_card {question : CardQuestion} (asks : storage.AsksCard session question) :
    session.resumeBlock storage.findBlock text context =
      (question.next storage.findBlock).map fun next => some (next, question.answer text context) := by
  unfold Session.resumeBlock CardQuestion.next
  rw [asks.block, asks.card]
  dsimp only [Option.getD]
  rw [asks.found]
  dsimp only [Bind.bind, Except.bind]
  rw [asks.posed]
  dsimp only
  cases nonEmpty question.nextBlockId with
  | none => rfl
  | some blockId =>
    dsimp only
    rw [Block.jump_eq]
    cases storage.findBlock question.block.botId blockId <;> rfl

theorem start_outside
    (out : ∀ blockId, session.currentBlockId = some blockId →
      storage.findBlock session.botId blockId = .ok none) (options : Options) :
    outcome (start options session text context) storage =
      outcome (startOutside options session.outside text context) storage := by
  cases block : session.currentBlockId with
  | none =>
    obtain ⟨id, botId, senderId, blockId, index, node, flow, known⟩ := session
    cases block
    rfl
  | some blockId =>
    have inside : session.inBlock = true := by rw [Session.inBlock, block]; rfl
    have resumed : session.resumeBlock storage.findBlock text context = .ok none := by
      unfold Session.resumeBlock
      rw [block]
      dsimp only [Option.getD]
      rw [out blockId block]
      rfl
    rw [start, if_pos inside, outcome_get_bind, resumed]
    rfl

end Turn

end Parley
