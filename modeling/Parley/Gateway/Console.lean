import Parley.Gateway.Guard
import Parley.Json.Display

/-!
A gateway that shows messages as lines of text. Buttons are listed with what pressing them sends, so
that it can be typed in.
-/

namespace Parley

structure Console where
  lead : String := "bot> "
  output : String := ""
  deriving DecidableEq, Repr

namespace Console

def buttonLine (button : OutboundButton) : String :=
  let target := match button.kind with
    | .url => button.url
    | .postback => button.payload
  "  (" ++ button.title ++ ") → " ++ target.getD "None"

def cardLines (card : OutboundCard) : List String :=
  let detail (text : Option String) : List String :=
    ((nonEmpty text).map fun shown => "       " ++ shown).toList
  ("[card] " ++ card.title) :: detail card.subtitle ++ detail card.imageUrl ++
    card.buttons.map buttonLine

def replyLine (reply : QuickReply) : String := "  [" ++ reply.title ++ "] → " ++ reply.payload

def lines : Outbound → List String
  | .message (.text text) => [text]
  | .message (.image url) => ["[image] " ++ url]
  | .message (.card card) => cardLines card
  | .message (.quickReplies replies) => replies.message :: replies.buttons.map replyLine
  | .typing true => ["..."]
  | .typing false => []
  | .value .text content => [content.display]
  | .value .image content => ["[image] " ++ content.display]
  | .value .typing content => if content.isPresent then ["..."] else []

def write (console : Console) (line : String) : Console :=
  { console with output := console.output ++ console.lead ++ line ++ "\n" }

def note (line : String) (console : Console) : Console :=
  { console with output := console.output ++ line ++ "\n" }

def carry : Carrier Console := fun _ _ outbound console =>
  { medium := (lines outbound).foldl write console }

end Console

end Parley
