import Parley.Proofs.Engine.Cards
import Parley.Proofs.Storage.Content

/-!
Blocks of one bot. A plan that starts in a block of a bot looks up blocks of that bot only, so it is the
same for all look-ups that answer the bot alike.
-/

namespace Parley

def Cursor.Of (botId : String) : Cursor → Prop
  | .card block _ => block.botId = botId
  | .node .. => True

def Transition.Of (botId : String) : Transition → Prop
  | .goto cursor => cursor.Of botId
  | _ => True

variable {find find' : FindBlock} {context : Context} {botId : String}

/-! ### Where a block leads -/

theorem Block.arrive_of {target : Option Block} (mine : ∀ block ∈ target, block.botId = botId) :
    (Block.arrive target).Of botId := by
  rcases Block.arrive_cases target with ⟨-, done⟩ | ⟨there, rfl, -, enters⟩
  · rw [done]
    trivial
  · rw [enters]
    exact mine there rfl

theorem Block.jump_of (faithful : find.Faithful) {block : Block} {blockId : String}
    {next : Transition} (leads : block.jump find blockId = .ok next) : next.Of block.botId := by
  obtain ⟨target, found, rfl⟩ := Block.jump_ok leads
  refine Block.arrive_of fun there here => ?_
  cases here
  exact (faithful _ _ _ found).2

theorem Flow.follow_of (flow : Flow) (node : Node) : (flow.follow context node).Of botId := by
  unfold Flow.follow
  cases flow.next? context node <;> trivial

theorem Flow.step_of (flow : Flow) (node : Node) : (flow.step context node).next.Of botId := by
  have follows : (flow.follow context node).Of botId := flow.follow_of node
  unfold Flow.step
  cases node.content with
  | userInput | finish => trivial
  | quickReply message buttons =>
    dsimp only
    split <;> exact follows
  | start | condition | text | image | card | delay => exact follows

theorem Block.Does.of {block : Block} {index : Int} {taken : Step} (faithful : find.Faithful)
    (does : block.Does find context index taken) : taken.next.Of block.botId := by
  cases does with
  | past | asks | strays => trivial
  | shows => exact rfl
  | jumps at_ jumps found enabled => exact (faithful _ _ _ found).2

theorem Plan.step_of (faithful : find.Faithful) {place : Cursor} {taken : Step}
    (stepped : Plan.step find context place = .ok taken) (mine : place.Of botId) :
    taken.next.Of botId := by
  cases place with
  | card block index =>
    have next := (Block.does_of_step stepped).of faithful
    rwa [show block.botId = botId from mine] at next
  | node flow node =>
    cases stepped
    exact flow.step_of node

/-! ### Look-ups that answer a bot alike -/

theorem Block.jump_same {block : Block} (same : find' block.botId = find block.botId) :
    block.jump find' = block.jump find := by
  funext blockId
  rw [Block.jump_eq, Block.jump_eq, same]

theorem Plan.step_same (same : find' botId = find botId) {place : Cursor} (mine : place.Of botId) :
    Plan.step find' context place = Plan.step find context place := by
  cases place with
  | card block index =>
    cases mine
    simp only [Plan.step, Block.step, Block.jump_same same]
  | node => rfl

theorem Plan.run_same (same : find' botId = find botId) (faithful : find.Faithful) {budget : Budget}
    {start : Transition} (mine : start.Of botId) :
    Plan.run find' context budget start = Plan.run find context budget start := by
  revert mine
  fun_induction Plan.run find context budget start with
  | case1 => intro _; rw [Plan.run]
  | case2 => intro _; rw [Plan.run]
  | case3 budget place failure refused =>
    intro _
    rw [Plan.run]
    split
    · rename_i again
      cases refused.symm.trans again
      rfl
    · rename_i paid
      cases refused.symm.trans paid
  | case4 budget place paid charged failure failed =>
    intro mine
    rw [Plan.run]
    split
    · rename_i refused
      cases charged.symm.trans refused
    · rw [Plan.step_same same mine, failed]
  | case5 budget place paid charged taken stepped less ih =>
    intro mine
    rw [Plan.run_goto charged ((Plan.step_same same mine).trans stepped),
      ih (Plan.step_of faithful stepped mine)]

theorem Session.resumeBlock_same {session : Session} (same : find' session.botId = find session.botId)
    (faithful : find.Faithful) (text : String) :
    session.resumeBlock find' text context = session.resumeBlock find text context := by
  unfold Session.resumeBlock
  rw [same]
  cases found : find session.botId (session.currentBlockId.getD "") with
  | error failure => rfl
  | ok answer =>
    cases answer with
    | none => rfl
    | some block =>
      have owned := (faithful _ _ _ found).2
      have jumps : block.jump find' = block.jump find := Block.jump_same (by rw [owned, same])
      dsimp only [Bind.bind, Except.bind]
      simp only [jumps]

theorem Session.resumeBlock_of {session : Session} (faithful : find.Faithful) {text : String}
    {next : Transition} {context' : Context}
    (resumed : session.resumeBlock find text context = .ok (some (next, context'))) :
    next.Of session.botId := by
  unfold Session.resumeBlock at resumed
  cases found : find session.botId (session.currentBlockId.getD "") with
  | error failure =>
    rw [found] at resumed
    cases resumed
  | ok answer =>
    rw [found] at resumed
    cases answer with
    | none => cases resumed
    | some block =>
      have owned := (faithful _ _ _ found).2
      dsimp only [Bind.bind, Except.bind] at resumed
      split at resumed
      · cases resumed
      · split at resumed
        · rename_i blockId _
          cases leads : block.jump find blockId with
          | error failure =>
            rw [leads] at resumed
            cases resumed
          | ok there =>
            rw [leads] at resumed
            cases resumed
            rw [← owned]
            exact Block.jump_of faithful leads
        · cases resumed
          exact owned

end Parley
