import Parley.Engine.Options
import Parley.Store.Storage

/-!
The default answer of a bot, and how a bot gets one. A bot without a default answer is given a
welcome block and a default answer on first use. This takes several requests to the store, one per
step, and between two of them other turns may run.
-/

namespace Parley

inductive Bootstrap where
  | findAnswer
  | loadAnswer (blockId : String)
  | findWelcome
  | saveWelcome
  | findAnswerAgain (created : List Block)
  | saveAnswer (created : List Block)
  | finished (created : List Block) (answer : Option Block)

namespace Bootstrap

def welcomeFlag : String := "is_welcome"

def answerFlag : String := "is_default_answer"

def textBlock (botId name cardId text : String) : Draw Block := do
  let id ← Source.freshId
  let createdAt ← Source.now
  return { id, botId, name, cards := [{ id := some cardId, content := .text text }], createdAt }

def welcomeBlock (options : Options) (botId : String) : Draw Block := do
  let block ← textBlock botId "Welcome Message" "welcome-text-1" options.welcomeText
  return { block with isWelcome := true }

def answerBlock (options : Options) (botId : String) : Draw Block := do
  let block ← textBlock botId "Default Answer" "default-text-1" options.defaultAnswerText
  return { block with isDefaultAnswer := true }

def step (options : Options) (botId : String) : Bootstrap → StoreM Bootstrap
  | .findAnswer => do
    match ← Storage.findFlagged botId answerFlag with
    | some blockId => return .loadAnswer blockId
    | none => return if options.bootstrap then .findWelcome else .finished [] none
  | .loadAnswer blockId => return .finished [] (← Storage.getBlock botId blockId)
  | .findWelcome => do
    match ← Storage.findFlagged botId welcomeFlag with
    | some _ => return .findAnswerAgain []
    | none => return .saveWelcome
  | .saveWelcome => do
    let block ← Storage.draw (welcomeBlock options botId)
    Storage.saveBlock block
    return .findAnswerAgain [block]
  | .findAnswerAgain created => do
    match ← Storage.findFlagged botId answerFlag with
    | some _ => return .finished created none
    | none => return .saveAnswer created
  | .saveAnswer created => do
    let block ← Storage.draw (answerBlock options botId)
    Storage.saveBlock block
    return .finished (created ++ [block]) (some block)
  | .finished created answer => return .finished created answer

def maxRequests : Nat := 5

def run (options : Options) (botId : String) : Nat → Bootstrap → StoreM Bootstrap
  | 0, state => return state
  | requests + 1, state => do run options botId requests (← step options botId state)

/-- The default answer of a bot, unless it is not enabled. -/
def defaultAnswer (options : Options) (botId : String) : StoreM (Option Block) := do
  match ← run options botId maxRequests .findAnswer with
  | .finished _ answer => return answer.filter (·.isEnabled)
  | _ => return none

/-- Gives a bot the default blocks that it lacks, and answers those. -/
def ensureDefaults (options : Options) (botId : String) : StoreM (List Block) := do
  match ← run options botId maxRequests .findWelcome with
  | .finished created _ => return created
  | _ => return []

end Bootstrap

end Parley
