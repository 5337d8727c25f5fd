import Parley.Schema.Reader

/-!
What a caller learns about a finished turn.
-/

namespace Parley

open Schema

structure TurnResult where
  success : Bool
  error : Option String := none
  handledBy : String := "none"
  messagesSent : Int := 0
  deriving DecidableEq, Repr

namespace TurnResult

def read : Json → Checked TurnResult :=
  record fun fields =>
    TurnResult.mk <$> required (key "success") readBool fields <*>
      textField? (key "error") fields <*>
      withDefault (key "handled_by") "none" readText fields <*>
      withDefault (key "messages_sent") 0 readInt fields

def toJson (result : TurnResult) : Json :=
  .obj [("success", .bool result.success), ("error", .ofOption result.error),
    ("handled_by", .str result.handledBy), ("messages_sent", .int result.messagesSent)]

end TurnResult

end Parley
