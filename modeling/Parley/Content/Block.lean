import Parley.Content.Card

/-!
Blocks: named sequences of cards that triggers start.
-/

namespace Parley

open Schema

structure Block where
  id : String
  botId : String := ""
  name : String := ""
  groupName : Option String := none
  cards : List Card := []
  triggers : List String := []
  isWelcome : Bool := false
  isDefaultAnswer : Bool := false
  isEnabled : Bool := true
  createdAt : Timestamp
  deriving DecidableEq, Repr

namespace Field

def botId : Key := ⟨"botId", "bot_id"⟩
def groupName : Key := ⟨"groupName", "group_name"⟩
def isWelcome : Key := ⟨"isWelcome", "is_welcome"⟩
def isDefaultAnswer : Key := ⟨"isDefaultAnswer", "is_default_answer"⟩
def isEnabled : Key := ⟨"isEnabled", "is_enabled"⟩
def createdAt : Key := ⟨"createdAt", "created_at"⟩

end Field

namespace Block

/-- Reads a block; one without id or time of creation takes those given. -/
def read (freshId : String) (now : Timestamp) : Json → Checked Block :=
  record fun fields =>
    Block.mk <$> withDefault (key "id") freshId readText fields <*> textField Field.botId fields <*>
      textField (key "name") fields <*> textField? Field.groupName fields <*>
      withDefault (key "cards") [] (readAuthoredList Card.read) fields <*>
      withDefault (key "triggers") [] (readAuthoredList readText) fields <*>
      withDefault Field.isWelcome false readBool fields <*>
      withDefault Field.isDefaultAnswer false readBool fields <*>
      withDefault Field.isEnabled true readBool fields <*>
      withDefault Field.createdAt now readTimestamp fields

def toJson (spelling : Spelling) (block : Block) : Json :=
  .obj [("id", .str block.id), (spelling.name Field.botId, .str block.botId),
    ("name", .str block.name), (spelling.name Field.groupName, .ofOption block.groupName),
    ("cards", .arr (block.cards.map (·.toJson spelling))),
    ("triggers", .arr (block.triggers.map .str)),
    (spelling.name Field.isWelcome, .bool block.isWelcome),
    (spelling.name Field.isDefaultAnswer, .bool block.isDefaultAnswer),
    (spelling.name Field.isEnabled, .bool block.isEnabled)]

end Block

end Parley
