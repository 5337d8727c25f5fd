import Parley.Content.Block

/-!
Bots: the pages on whose behalf messages are answered.
-/

namespace Parley

open Schema

structure Bot where
  id : String
  name : String := ""
  /-- Without a token nothing is delivered to the platform. -/
  pageAccessToken : Option String := none
  platform : String := "facebook"
  isActive : Bool := true
  deriving DecidableEq, Repr

namespace Field

def pageAccessToken : Key := ⟨"pageAccessToken", "page_access_token"⟩
def isActiveBot : Key := ⟨"isActive", "is_active"⟩

end Field

namespace Bot

def read (freshId : String) : Json → Checked Bot :=
  record fun fields =>
    Bot.mk <$> withDefault (key "id") freshId readText fields <*> textField (key "name") fields <*>
      textField? Field.pageAccessToken fields <*>
      withDefault (key "platform") "facebook" readText fields <*>
      withDefault Field.isActiveBot true readBool fields

def toJson (spelling : Spelling) (bot : Bot) : Json :=
  .obj [("id", .str bot.id), ("name", .str bot.name),
    (spelling.name Field.pageAccessToken, .ofOption bot.pageAccessToken),
    ("platform", .str bot.platform), (spelling.name Field.isActiveBot, .bool bot.isActive)]

end Bot

end Parley
