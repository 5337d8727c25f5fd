import Parley.Schema.Reader

/-!
Buttons of authored messages.
-/

namespace Parley

open Schema

inductive ButtonKind where
  | postback
  | url
  | block
  deriving DecidableEq, Repr

namespace ButtonKind

def name : ButtonKind → String
  | .postback => "postback"
  | .url => "url"
  | .block => "block"

def ofName? : String → Option ButtonKind
  | "postback" => some .postback
  | "url" => some .url
  | "block" => some .block
  | _ => none

end ButtonKind

/-- A button of a card. Which of its fields count depends on the kind; all are kept. -/
structure CardButton where
  id : Option String := none
  title : String
  kind : ButtonKind := .postback
  payload : Option String := none
  url : Option String := none
  blockId : Option String := none
  deriving DecidableEq, Repr

structure BlockReply where
  id : Option String := none
  title : String
  blockId : Option String := none
  deriving DecidableEq, Repr

structure FlowReply where
  id : Option String := none
  title : String
  payload : String := ""
  deriving DecidableEq, Repr

namespace Field

def blockId : Key := ⟨"blockId", "block_id"⟩
def kind : Key := ⟨"type", "kind"⟩

end Field

namespace CardButton

def read : Json → Checked CardButton :=
  record fun fields =>
    CardButton.mk <$> textField? (key "id") fields <*> required (key "title") readText fields <*>
      withDefault Field.kind .postback (readLiteral ButtonKind.ofName?) fields <*>
      textField? (key "payload") fields <*> textField? (key "url") fields <*> textField? Field.blockId fields

def toJson (spelling : Spelling) (button : CardButton) : Json :=
  .obj [("id", .ofOption button.id), ("title", .str button.title),
    (spelling.name Field.kind, .str button.kind.name), ("payload", .ofOption button.payload),
    ("url", .ofOption button.url), (spelling.name Field.blockId, .ofOption button.blockId)]

end CardButton

namespace BlockReply

def read : Json → Checked BlockReply :=
  record fun fields =>
    BlockReply.mk <$> textField? (key "id") fields <*> required (key "title") readText fields <*>
      textField? Field.blockId fields

def toJson (spelling : Spelling) (reply : BlockReply) : Json :=
  .obj [("id", .ofOption reply.id), ("title", .str reply.title),
    (spelling.name Field.blockId, .ofOption reply.blockId)]

end BlockReply

namespace FlowReply

def read : Json → Checked FlowReply :=
  record fun fields =>
    FlowReply.mk <$> textField? (key "id") fields <*> required (key "title") readText fields <*>
      textField (key "payload") fields

def toJson (reply : FlowReply) : Json :=
  .obj [("id", .ofOption reply.id), ("title", .str reply.title), ("payload", .str reply.payload)]

end FlowReply

end Parley
