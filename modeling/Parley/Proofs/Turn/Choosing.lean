import Parley.Proofs.Storage.Pointers
import Parley.Turn.Execute

/-!
Choosing where a turn starts reads content, and writes at most the default blocks of a bot.
-/

namespace Parley

open Storage (Part)

/-! ### Default blocks -/

namespace Bootstrap

theorem textBlock_issues (botId name cardId text : String) :
    Source.Issues (textBlock botId name cardId text) :=
  Source.freshId_issues.bind fun _ => Source.now_issues.bind fun _ => .pure _

theorem welcomeBlock_issues (options : Options) (botId : String) :
    Source.Issues (welcomeBlock options botId) :=
  (textBlock_issues _ _ _ _).bind fun _ => .pure _

theorem answerBlock_issues (options : Options) (botId : String) :
    Source.Issues (answerBlock options botId) :=
  (textBlock_issues _ _ _ _).bind fun _ => .pure _

end Bootstrap

namespace Touches

theorem bootstrapStep (options : Options) (botId : String) (state : Bootstrap) :
    Touches [.blocks, .source] (Bootstrap.step options botId state) := by
  have flagged (name : String) : Touches [.blocks, .source] (Storage.findFlagged botId name) :=
    (Touches.findFlagged botId name).mono (by decide)
  have saved {draw : Draw Block} (issues : Source.Issues draw) (next : Block → Bootstrap) :
      Touches [.blocks, .source] (do
        let block ← Storage.draw draw
        Storage.saveBlock block
        return next block) := by
    apply Within.bind ((Touches.draw issues).mono (by decide))
    intro block
    exact Within.bind ((Touches.saveBlock block).mono (by decide)) fun _ => Within.pure _
  cases state with
  | findAnswer =>
    apply Within.bind (flagged _)
    intro found
    cases found with
    | some blockId => exact Within.pure _
    | none => exact Within.pure _
  | loadAnswer blockId =>
    exact Within.bind ((Touches.getBlock botId blockId).mono (by decide)) fun _ => Within.pure _
  | findWelcome =>
    apply Within.bind (flagged _)
    intro found
    cases found with
    | some blockId => exact Within.pure _
    | none => exact Within.pure _
  | saveWelcome =>
    exact saved (Bootstrap.welcomeBlock_issues options botId) fun block => .findAnswerAgain [block]
  | findAnswerAgain created =>
    apply Within.bind (flagged _)
    intro found
    cases found with
    | some blockId => exact Within.pure _
    | none => exact Within.pure _
  | saveAnswer created =>
    exact saved (Bootstrap.answerBlock_issues options botId)
      fun block => .finished (created ++ [block]) (some block)
  | finished created answer => exact Within.pure _

theorem bootstrapRun (options : Options) (botId : String) (requests : Nat) (state : Bootstrap) :
    Touches [.blocks, .source] (Bootstrap.run options botId requests state) := by
  induction requests generalizing state with
  | zero => exact Within.pure state
  | succ requests ih =>
    exact Within.bind (Touches.bootstrapStep options botId state) fun next => ih next

theorem defaultAnswer (options : Options) (botId : String) :
    Touches [.blocks, .source] (Bootstrap.defaultAnswer options botId) := by
  apply Within.bind (Touches.bootstrapRun options botId _ _)
  intro state
  cases state <;> exact Within.pure _

/-! ### Resolving a message -/

theorem ofPayload (botId message : String) : Touches [] (Resolution.ofPayload botId message) := by
  rw [Resolution.ofPayload]
  split
  · exact Within.bind (Touches.getBlock _ _) fun _ => Within.pure _
  · exact Within.pure _

theorem ofTrigger (botId message : String) : Touches [] (Resolution.ofTrigger botId message) :=
  Within.bind (Touches.listBlocks _ _) fun _ => Within.pure _

theorem explicit (session : Session) (message : String) :
    Touches [] (Resolution.explicit session message) := by
  rw [Resolution.explicit]
  split
  · exact Within.pure _
  · apply Within.bind (Touches.ofPayload session.botId message)
    intro named
    cases named with
    | some block => exact Within.pure _
    | none =>
      apply Within.bind (Touches.ofTrigger session.botId message)
      intro triggered
      cases triggered <;> exact Within.pure _

theorem fallback (options : Options) (session : Session) (message : String) :
    Touches [.blocks, .source] (Resolution.fallback options session message) := by
  rw [Resolution.fallback]
  split
  · exact Within.pure _
  · apply Within.bind (Touches.defaultAnswer options _)
    intro answer
    cases answer with
    | some block => exact Within.pure _
    | none => exact Within.bind ((Touches.listFlows _ _).mono (by decide)) fun _ => Within.pure _

theorem parkedFlow (session : Session) : Touches [] session.parkedFlow := by
  rw [Session.parkedFlow]
  split
  · exact Touches.getFlow _ _
  · exact Within.bind (Touches.listFlows _ _) fun _ => Within.pure _

theorem resumeFlow (session : Session) (message : String) (context : Context) :
    Touches [] (session.resumeFlow message context) := by
  apply Within.bind (Touches.parkedFlow session)
  intro found
  cases found with
  | none => exact Within.pure _
  | some flow =>
    dsimp only
    split
    · exact Within.pure _
    · exact Within.pure _

theorem resumeOutside (session : Session) (text : String) (context : Context) :
    Touches [] (Turn.resumeOutside session text context) := by
  rw [Turn.resumeOutside]
  split
  · exact Touches.resumeFlow session text context
  · exact Within.pure none

theorem startUnasked (options : Options) (session : Session) (text : String) (context : Context) :
    Touches [.blocks, .source] (Turn.startUnasked options session text context) := by
  apply Within.bind (Touches.fallback options session text)
  intro found
  cases found with
  | some resolution => exact Touches.ofExcept _ _
  | none => exact Within.throw _

theorem startOutside (options : Options) (session : Session) (text : String) (context : Context) :
    Touches [.blocks, .source] (Turn.startOutside options session text context) := by
  apply Within.bind ((Touches.explicit session text).mono (by decide))
  intro resolved
  cases resolved with
  | some resolution => exact Touches.ofExcept _ _
  | none =>
    apply Within.bind ((Touches.resumeOutside session text context).mono (by decide))
    intro resumed
    cases resumed with
    | some resumed => exact Within.pure _
    | none => exact Touches.startUnasked options session text context

theorem start (options : Options) (session : Session) (text : String) (context : Context) :
    Touches [.blocks, .source] (Turn.start options session text context) := by
  rw [Turn.start]
  split
  · refine Within.bind Within.get fun storage => ?_
    apply Within.bind (Touches.ofExcept _ _)
    intro resumed
    cases resumed with
    | some resumed => exact Within.pure _
    | none => exact Touches.startOutside options _ text context
  · exact Touches.startOutside options session text context

end Touches

end Parley
