import Parley.Trigger
import Parley.Turn.Bootstrap

/-!
What a message starts when the sender is not in the middle of a block: the block that its payload
names, or the first enabled block with a trigger in it, or the default answer, or the first active
flow with a trigger in it, or the default flow.
-/

namespace Parley

inductive Target where
  | block (block : Block)
  | flow (flow : Flow)
  deriving DecidableEq, Repr

inductive Reason where
  | payload
  | trigger
  | defaultAnswer
  | defaultFlow
  deriving DecidableEq, Repr

def Reason.name : Reason → String
  | .payload => "payload"
  | .trigger => "trigger"
  | .defaultAnswer => "default_answer"
  | .defaultFlow => "default_flow"

structure Resolution where
  target : Target
  reason : Reason
  deriving DecidableEq, Repr

namespace Resolution

def payloadTarget? (message : String) : Option String :=
  let text := Text.trim message.toList
  let start := blockPayloadStart.toList
  if start.isPrefixOf text then some (String.ofList (text.drop start.length)) else none

def ofPayload (botId message : String) : StoreM (Option Block) := do
  match nonEmpty (payloadTarget? message) with
  | some blockId => return (← Storage.getBlock botId blockId).filter (·.isEnabled)
  | none => return none

def ofTrigger (botId message : String) : StoreM (Option Block) := do
  return Trigger.firstMatch Block.triggers message (← Storage.listBlocks botId true)

/-- What a message asks for by itself. -/
def explicit (session : Session) (message : String) : StoreM (Option Resolution) := do
  if session.inBlock then return none
  match ← ofPayload session.botId message with
  | some block => return some { target := .block block, reason := .payload }
  | none =>
    match ← ofTrigger session.botId message with
    | some block => return some { target := .block block, reason := .trigger }
    | none => return none

/-- The flow that a message starts, of those that are active. -/
def ofFlows (message : String) (flows : List Flow) : Option Resolution :=
  match Trigger.firstMatch Flow.triggers message flows with
  | some flow => some { target := .flow flow, reason := .trigger }
  | none => (flows.find? (·.isDefault)).map fun flow => { target := .flow flow, reason := .defaultFlow }

/-- What a message starts that asks for nothing by itself. -/
def fallback (options : Options) (session : Session) (message : String) :
    StoreM (Option Resolution) := do
  if session.inBlock then return none
  match ← Bootstrap.defaultAnswer options session.botId with
  | some block => return some { target := .block block, reason := .defaultAnswer }
  | none => return ofFlows message (← Storage.listFlows session.botId true)

def resolve (options : Options) (session : Session) (message : String) :
    StoreM (Option Resolution) := do
  match ← explicit session message with
  | some resolution => return some resolution
  | none => fallback options session message

end Resolution

end Parley
