import Parley.Content.Card
import Parley.Json.Access

/-!
Messages as they are handed to a gateway.
-/

namespace Parley

open Schema

def blockPayloadStart : String := "BLOCK:"

def blockPayload (blockId : String) : String := blockPayloadStart ++ blockId

inductive OutboundButtonKind where
  | postback
  | url
  deriving DecidableEq, Repr

namespace OutboundButtonKind

def name : OutboundButtonKind → String
  | .postback => "postback"
  | .url => "url"

def ofName? : String → Option OutboundButtonKind
  | "postback" => some .postback
  | "url" => some .url
  | _ => none

end OutboundButtonKind

structure OutboundButton where
  title : String
  kind : OutboundButtonKind := .postback
  payload : Option String := none
  url : Option String := none
  deriving DecidableEq, Repr

structure OutboundCard where
  title : String
  subtitle : Option String := none
  imageUrl : Option String := none
  buttons : List OutboundButton := []
  deriving DecidableEq, Repr

structure QuickReply where
  title : String
  payload : String
  deriving DecidableEq, Repr

structure QuickReplies where
  message : String
  buttons : List QuickReply := []
  deriving DecidableEq, Repr

inductive Message where
  | text (text : String)
  | image (url : String)
  | card (card : OutboundCard)
  | quickReplies (replies : QuickReplies)
  deriving DecidableEq, Repr

inductive Slot where
  | text
  | image
  | typing
  deriving DecidableEq, Repr

def Slot.name : Slot → String
  | .text => "text"
  | .image => "image"
  | .typing => "typing"

inductive Outbound where
  | message (message : Message)
  | typing (on : Bool)
  | value (slot : Slot) (content : Json)

def nonEmpty (text : Option String) : Option String := text.filter (· ≠ "")

namespace OutboundButton

def read : Json → Checked OutboundButton :=
  record fun fields =>
    OutboundButton.mk <$> required (key "title") readText fields <*>
      withDefault (key "kind") .postback (readLiteral OutboundButtonKind.ofName?) fields <*>
      textField? (key "payload") fields <*> textField? (key "url") fields

def toJson (button : OutboundButton) : Json :=
  .obj [("title", .str button.title), ("kind", .str button.kind.name),
    ("payload", .ofOption button.payload), ("url", .ofOption button.url)]

/-- The button that an authored button becomes. One for a block sends the payload of that block,
and one that says nothing else sends its title. -/
def ofCardButton (button : CardButton) : OutboundButton :=
  match button.kind, nonEmpty button.blockId with
  | .url, _ => { title := button.title, kind := .url, url := button.url }
  | .block, some blockId => { title := button.title, payload := some (blockPayload blockId) }
  | _, _ => { title := button.title, payload := some ((nonEmpty button.payload).getD button.title) }

end OutboundButton

namespace OutboundCard

def read : Json → Checked OutboundCard :=
  record fun fields =>
    OutboundCard.mk <$> required (key "title") readText fields <*>
      textField? (key "subtitle") fields <*> textField? (key "image_url") fields <*>
      withDefault (key "buttons") [] (readList OutboundButton.read) fields

def toJson (card : OutboundCard) : Json :=
  .obj [("title", .str card.title), ("subtitle", .ofOption card.subtitle),
    ("image_url", .ofOption card.imageUrl), ("buttons", .arr (card.buttons.map (·.toJson)))]

end OutboundCard

namespace QuickReply

def read : Json → Checked QuickReply :=
  record fun fields =>
    QuickReply.mk <$> required (key "title") readText fields <*>
      required (key "payload") readText fields

def toJson (reply : QuickReply) : Json :=
  .obj [("title", .str reply.title), ("payload", .str reply.payload)]

end QuickReply

namespace QuickReplies

def read : Json → Checked QuickReplies :=
  record fun fields =>
    QuickReplies.mk <$> required (key "message") readText fields <*>
      withDefault (key "buttons") [] (readList QuickReply.read) fields

def toJson (replies : QuickReplies) : Json :=
  .obj [("message", .str replies.message), ("buttons", .arr (replies.buttons.map (·.toJson)))]

end QuickReplies

namespace Message

def kind : Message → String
  | .text _ => "text"
  | .image _ => "image"
  | .card _ => "card"
  | .quickReplies _ => "quick_replies"

def logType : Message → String
  | .text _ => "text"
  | .image _ => "image"
  | .card _ => "card"
  | .quickReplies _ => "quick_reply"

def logText : Message → String
  | .text body => body
  | .image url => "[Image: " ++ url ++ "]"
  | .card shown => "[Card: " ++ shown.title ++ "]"
  | .quickReplies replies => replies.message

def payload : Message → Json
  | .text body => .str body
  | .image url => .str url
  | .card shown => shown.toJson
  | .quickReplies replies => replies.toJson

end Message

namespace Outbound

def kind : Outbound → String
  | .message sent => sent.kind
  | .typing _ => Slot.typing.name
  | .value slot _ => slot.name

def payload : Outbound → Json
  | .message sent => sent.payload
  | .typing on => .bool on
  | .value _ content => content

/-- Reads what is to be shown from its kind and its payload; what is of no other kind says whether
the bot is typing. -/
def read (kind : String) (payload : Json) : Checked Outbound :=
  match kind, payload with
  | "text", .str text => .valid (.message (.text text))
  | "text", content => .valid (.value .text content)
  | "image", .str url => .valid (.message (.image url))
  | "image", content => .valid (.value .image content)
  | "card", _ => (fun card => .message (.card card)) <$> OutboundCard.read payload
  | "quick_replies", _ =>
    (fun replies => .message (.quickReplies replies)) <$> QuickReplies.read payload
  | _, .bool on => .valid (.typing on)
  | _, content => .valid (.value .typing content)

end Outbound

end Parley
