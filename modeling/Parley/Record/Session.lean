import Parley.Context
import Parley.Schema.Reader

/-!
Sessions: where the conversation of a sender with a bot stands.
-/

namespace Parley

open Schema

/-- A session is parked in a block, in a flow, or in neither. -/
structure Session where
  id : String
  botId : String
  senderId : String
  currentBlockId : Option String := none
  currentCardIndex : Int := 0
  currentNodeId : Option String := none
  currentFlowId : Option String := none
  context : Context := []
  deriving DecidableEq, Repr

namespace Session

def inBlock (session : Session) : Bool := session.currentBlockId.isSome

def inGraph (session : Session) : Bool := session.currentNodeId.isSome

def read (freshId : String) : Json → Checked Session :=
  record fun fields =>
    (fun id botId senderId blockId index nodeId flowId context _ _ =>
        Session.mk id botId senderId blockId index nodeId flowId context) <$>
      withDefault (key "id") freshId readText fields <*>
      required (key "bot_id") readText fields <*> required (key "sender_id") readText fields <*>
      textField? (key "current_block_id") fields <*>
      withDefault (key "current_card_index") 0 readInt fields <*>
      textField? (key "current_node_id") fields <*> textField? (key "current_flow_id") fields <*>
      withDefault (key "context") [] readDictionary fields <*>
      withDefault (key "created_at") ⟨0, none⟩ readTimestamp fields <*>
      withDefault (key "updated_at") ⟨0, none⟩ readTimestamp fields

def contextJson (context : Context) : Json :=
  .obj (context.map fun (name, value) => (name, .str value))

def toJson (session : Session) : Json :=
  .obj [("id", .str session.id), ("bot_id", .str session.botId),
    ("sender_id", .str session.senderId), ("current_block_id", .ofOption session.currentBlockId),
    ("current_card_index", .int session.currentCardIndex),
    ("current_node_id", .ofOption session.currentNodeId),
    ("current_flow_id", .ofOption session.currentFlowId),
    ("context", contextJson session.context)]

/-! ### Moving the pointer -/

/-- Parks a session in a block, or clears its pointer. -/
def atBlock (blockId : Option String) (index : Int) (context : Context) (session : Session) :
    Session :=
  { session with
    currentBlockId := blockId
    currentCardIndex := if blockId.getD "" = "" then 0 else index
    currentNodeId := none
    currentFlowId := none
    context }

def atNode (nodeId : Option String) (flowId : Option String) (context : Context)
    (session : Session) : Session :=
  { session with
    currentNodeId := nodeId
    currentFlowId := if nodeId.getD "" = "" then none else flowId
    currentBlockId := none
    currentCardIndex := 0
    context }

/-- Takes a session out of its block, without saving. -/
def outside (session : Session) : Session :=
  { session with currentBlockId := none, currentCardIndex := 0 }

def reset (session : Session) : Session := session.atBlock none 0 []

end Session

end Parley
