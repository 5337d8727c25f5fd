import Parley.Engine.BlockStep

/-!
How a flow runs: from node to node along the edges. A condition leaves by the edge named for its
outcome, every other node by its first edge; without an edge, or at the end of one that leads
nowhere, the flow is finished.
-/

namespace Parley

namespace FlowReply

/-- A quick reply sends its payload, or its title if that is empty. -/
def outbound (reply : FlowReply) : QuickReply where
  title := reply.title
  payload := if reply.payload = "" then reply.title else reply.payload

end FlowReply

namespace Flow

def edge? (flow : Flow) (context : Context) (node : Node) : Option Edge :=
  match node.content with
  | .condition condition =>
    let handle := if condition.holds context.get? then "true" else "false"
    flow.edges.find? fun edge => edge.source = node.id && edge.sourceHandle = some handle
  | _ => flow.edges.find? fun edge => edge.source = node.id

def next? (flow : Flow) (context : Context) (node : Node) : Option Node :=
  (flow.edge? context node).bind fun edge => flow.node? edge.target

def follow (flow : Flow) (context : Context) (node : Node) : Transition :=
  match flow.next? context node with
  | some target => .goto (.node flow target)
  | none => .done

def begin (flow : Flow) : Except Failure Transition :=
  match flow.start? with
  | some start => .ok (.goto (.node flow start))
  | none => .error (.noStartNode flow.id flow.botId)

def step (context : Context) (flow : Flow) (node : Node) : Step :=
  let next := flow.follow context node
  match node.content with
  | .start => { next }
  | .condition _ => { next }
  | .text message =>
    { effects := if message = "" then [] else [.send (.text (context.fill message))], next }
  | .image picture => { effects := picture.effects context, next }
  | .card gallery => { effects := [.send (.card (gallery.outbound context))], next }
  | .quickReply message buttons =>
    if message = "" || buttons.isEmpty then { next }
    else
      let replies : QuickReplies := ⟨context.fill message, buttons.map (·.outbound)⟩
      { effects := [.send (.quickReplies replies)], next }
  | .userInput prompt _ =>
    { next := .await (.node flow node) (if prompt = "" then none else some (context.fill prompt)) }
  | .delay pause => { effects := [.wait pause], next }
  | .finish => { next := .done }

/-- Takes a message as the reply to the question of a node. A node that asks nothing runs again. -/
def resume (flow : Flow) (node : Node) (message : String) (context : Context) :
    Transition × Context :=
  match node.content with
  | .userInput _ variableName =>
    let context :=
      if variableName = "" then context else context.set variableName (Reply.clean message)
    (flow.follow context node, context)
  | _ => (.goto (.node flow node), context)

end Flow

end Parley
