import Parley.Content.Block
import Parley.Content.Node

/-!
Flows: named graphs of nodes and edges that triggers start.
-/

namespace Parley

open Schema

structure Flow where
  id : String
  botId : String := ""
  name : String := ""
  nodes : List Node := []
  edges : List Edge := []
  triggers : List String := []
  isDefault : Bool := false
  isActive : Bool := true
  createdAt : Timestamp
  deriving DecidableEq, Repr

namespace Field

def isDefault : Key := ⟨"isDefault", "is_default"⟩
def isActive : Key := ⟨"isActive", "is_active"⟩

end Field

namespace Flow

def read (freshId : String) (now : Timestamp) : Json → Checked Flow :=
  record fun fields =>
    Flow.mk <$> withDefault (key "id") freshId readText fields <*> textField Field.botId fields <*>
      textField (key "name") fields <*> withDefault (key "nodes") [] (readAuthoredList Node.read) fields <*>
      withDefault (key "edges") [] (readAuthoredList Edge.read) fields <*>
      withDefault (key "triggers") [] (readAuthoredList readText) fields <*>
      withDefault Field.isDefault false readBool fields <*>
      withDefault Field.isActive true readBool fields <*>
      withDefault Field.createdAt now readTimestamp fields

def toJson (spelling : Spelling) (flow : Flow) : Json :=
  .obj [("id", .str flow.id), (spelling.name Field.botId, .str flow.botId),
    ("name", .str flow.name), ("nodes", .arr (flow.nodes.map (·.toJson spelling))),
    ("edges", .arr (flow.edges.map (·.toJson spelling))),
    ("triggers", .arr (flow.triggers.map .str)),
    (spelling.name Field.isDefault, .bool flow.isDefault),
    (spelling.name Field.isActive, .bool flow.isActive)]

/-- The first node with an id; no node has the empty id. -/
def node? (id : String) (flow : Flow) : Option Node :=
  if id = "" then none else flow.nodes.find? (·.id = id)

def start? (flow : Flow) : Option Node := flow.nodes.find? (·.kind = .start)

end Flow

end Parley
