import Parley.Engine.GraphStep
import Parley.Engine.Plan
import Parley.Store.Storage

/-!
Sessions in the store: found or created, parked, cleared, and resumed in a flow.
-/

namespace Parley.Session

def getOrCreate (botId senderId : String) : StoreM Session := do
  match ← Storage.getSession botId senderId with
  | some session => return session
  | none => Storage.saveSession (← Storage.draw (Source.newSession botId senderId))

def parkInBlock (blockId : Option String) (index : Int) (context : Context) (session : Session) :
    StoreM Session :=
  Storage.saveSession (session.atBlock blockId index context)

def parkInFlow (nodeId flowId : Option String) (context : Context) (session : Session) :
    StoreM Session :=
  Storage.saveSession (session.atNode nodeId flowId context)

def forget (session : Session) : StoreM Session := Storage.saveSession session.reset

/-- The flow in which a session is parked; one without a flow is parked in the default flow. -/
def parkedFlow (session : Session) : StoreM (Option Flow) := do
  match nonEmpty session.currentFlowId with
  | some flowId => Storage.getFlow session.botId flowId
  | none => return (← Storage.listFlows session.botId true).find? (·.isDefault)

/-- Takes a message as the reply to the question on which a session is parked in a flow. Nothing
results when the flow or the node is gone. -/
def resumeFlow (session : Session) (message : String) (context : Context) :
    StoreM (Option (Transition × Context)) := do
  match ← session.parkedFlow with
  | none => return none
  | some flow =>
    match flow.node? (session.currentNodeId.getD "") with
    | none => return none
    | some node => return some (flow.resume node message context)

inductive Mode where
  | block
  | graph
  deriving DecidableEq, Repr

def Mode.name : Mode → String
  | .block => "block"
  | .graph => "graph"

def commit (mode : Mode) (parked : Option Cursor) (context : Context) (session : Session) :
    StoreM Session :=
  match parked, mode with
  | some (.card block index), _ => session.parkInBlock (some block.id) index context
  | some (.node flow node), _ => session.parkInFlow (some node.id) (some flow.id) context
  | none, .block => session.parkInBlock none 0 context
  | none, .graph => session.parkInFlow none none context

end Parley.Session
