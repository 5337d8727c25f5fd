import Parley.Condition
import Parley.Content.Card

/-!
Nodes and edges, the parts of a flow. The editor keeps the fields of a node under `data`; they are
read as if they stood beside its id.
-/

namespace Parley

open Schema

inductive NodeKind where
  | start
  | text
  | image
  | card
  | quickReply
  | userInput
  | condition
  | delay
  | finish
  deriving DecidableEq, Repr

namespace NodeKind

def all : List NodeKind :=
  [start, text, image, card, quickReply, userInput, condition, delay, finish]

def name : NodeKind → String
  | .start => "start"
  | .text => "text"
  | .image => "image"
  | .card => "card"
  | .quickReply => "quickReply"
  | .userInput => "userInput"
  | .condition => "condition"
  | .delay => "delay"
  | .finish => "end"

def ofName? (name : String) : Option NodeKind := all.find? (·.name = name)

end NodeKind

inductive NodeContent where
  | start
  | text (message : String)
  | image (picture : Picture)
  | card (gallery : Gallery)
  | quickReply (message : String) (buttons : List FlowReply)
  | userInput (prompt variableName : String)
  | condition (condition : Condition)
  | delay (pause : Pause)
  | finish
  deriving DecidableEq, Repr

structure Node where
  id : String
  label : String := ""
  content : NodeContent
  deriving DecidableEq, Repr

/-- An edge; the handle says at which outcome of a condition it starts. -/
structure Edge where
  id : Option String := none
  source : String
  target : String
  sourceHandle : Option String := none
  targetHandle : Option String := none
  deriving DecidableEq, Repr

namespace Field

def sourceHandle : Key := ⟨"sourceHandle", "source_handle"⟩
def targetHandle : Key := ⟨"targetHandle", "target_handle"⟩

end Field

namespace Condition

def read (fields : Fields) : Checked Condition :=
  Condition.mk <$> textField? (key "variable") fields <*> textField? (key "operator") fields <*>
    textField? (key "value") fields

def fields (condition : Condition) : Fields :=
  [("variable", .ofOption condition.variableName), ("operator", .ofOption condition.operator),
    ("value", .ofOption condition.value)]

end Condition

namespace NodeContent

def kind : NodeContent → NodeKind
  | .start => .start
  | .text .. => .text
  | .image .. => .image
  | .card .. => .card
  | .quickReply .. => .quickReply
  | .userInput .. => .userInput
  | .condition .. => .condition
  | .delay .. => .delay
  | .finish => .finish

def read (kind : NodeKind) (fields : Fields) : Checked NodeContent :=
  match kind with
  | .start => .valid .start
  | .text => .text <$> textField (key "message") fields
  | .image => .image <$> Picture.read fields
  | .card => .card <$> Gallery.read fields
  | .quickReply =>
    .quickReply <$> textField (key "message") fields <*>
      withDefault (key "buttons") [] (readList FlowReply.read) fields
  | .userInput => .userInput <$> textField (key "prompt") fields <*> textField Field.variableName fields
  | .condition => .condition <$> Condition.read fields
  | .delay => .delay <$> Pause.read fields
  | .finish => .valid .finish

def fields (spelling : Spelling) : NodeContent → Fields
  | .start => []
  | .text message => [("message", .str message)]
  | .image picture => picture.fields spelling
  | .card gallery => gallery.fields spelling
  | .quickReply message buttons =>
    [("message", .str message), ("buttons", .arr (buttons.map (·.toJson)))]
  | .userInput prompt variableName =>
    [("prompt", .str prompt), (spelling.name Field.variableName, .str variableName)]
  | .condition tested => tested.fields
  | .delay pause => pause.fields spelling
  | .finish => []

end NodeContent

namespace Node

/-- The fields of a node with those under `data` among them; a field of the node itself counts
first. -/
def flatten (fields : Fields) : Fields :=
  match Json.lookup "data" fields with
  | some (.obj data) =>
    data.foldl (fun merged (name, value) => Json.putNew name value merged)
      (fields.filter fun field => field.1 ≠ "data" && field.1 ≠ "position")
  | _ => fields

def readKind (kind : NodeKind) (fields : Fields) : Checked Node :=
  let fields := flatten fields
  (fun id label _ content => Node.mk id label content) <$>
    required (key "id") readText fields <*> textField (key "label") fields <*>
    withDefault (key "type") () (readTag kind.name) fields <*> NodeContent.read kind fields

def read : Json → Checked Node :=
  readTagged fun tag => (NodeKind.ofName? tag).map readKind

def kind (node : Node) : NodeKind := node.content.kind

def toJson (spelling : Spelling) (node : Node) : Json :=
  .obj (("id", .str node.id) :: ("label", .str node.label) :: ("type", .str node.kind.name) ::
    node.content.fields spelling)

end Node

namespace Edge

def read : Json → Checked Edge :=
  record fun fields =>
    Edge.mk <$> textField? (key "id") fields <*> required (key "source") readText fields <*>
      required (key "target") readText fields <*> textField? Field.sourceHandle fields <*>
      textField? Field.targetHandle fields

def toJson (spelling : Spelling) (edge : Edge) : Json :=
  .obj [("id", .ofOption edge.id), ("source", .str edge.source), ("target", .str edge.target),
    (spelling.name Field.sourceHandle, .ofOption edge.sourceHandle),
    (spelling.name Field.targetHandle, .ofOption edge.targetHandle)]

end Edge

end Parley
