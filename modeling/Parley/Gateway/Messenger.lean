import Parley.Gateway.Guard
import Parley.Url.Address

/-!
The gateway to Messenger. A message is posted to the platform under the token of its bot. What fails
for now is posted again, after longer and longer pauses; what the platform rejects is not. A bot
without a token delivers nothing, and all goes well.
-/

namespace Parley

structure MessengerOptions where
  graphApiUrl : String := "https://graph.facebook.com/v18.0"
  timeoutSeconds : Float := 10
  /-- How often a message is posted at most; at least once. -/
  maxRetries : Int := 3
  deriving DecidableEq, Repr

inductive Response where
  | status (code : Int)
  | unreachable (cause : String)
  | broke (cause : String)
  deriving DecidableEq, Repr

namespace Response

def isRetryable : Response → Bool
  | .status code => code = 429 || 500 ≤ code
  | .unreachable _ => true
  | .broke _ => false

def isSuccess : Response → Bool
  | .status code => 200 ≤ code && code < 300
  | _ => false

def refusal? (botId : String) (response : Response) : Option Refusal :=
  match response with
  | .status code =>
    if response.isSuccess then none
    else
      some (.declined ("Facebook API error " ++ toString code) response.isRetryable (some botId))
  | .unreachable cause => some (.declined ("Facebook API unreachable: " ++ cause) true (some botId))
  | .broke cause => some (.broke cause)

end Response

structure PostRequest where
  url : String
  token : String
  body : Json
  timeout : Float

def PostRequest.toJson (request : PostRequest) : Json :=
  .obj [("method", .str "POST"), ("url", .str request.url),
    ("params", .arr [.arr [.str "access_token", .str request.token]]), ("body", request.body),
    ("timeout", .float request.timeout)]

/-- The requests made so far, the pauses planned after those that failed for now, and the responses
still to come, of which the last one repeats. -/
structure Messenger where
  options : MessengerOptions := {}
  responses : List Response := [.status 200]
  requests : List PostRequest := []
  waits : List Nat := []
  obstacle : Option String := none

namespace Messenger

def buttonJson (button : OutboundButton) : Json :=
  match button.kind with
  | .url =>
    .obj [("type", .str "web_url"), ("url", .ofOption button.url), ("title", .str button.title)]
  | .postback =>
    .obj [("type", .str "postback"), ("title", .str button.title),
      ("payload", .str ((nonEmpty button.payload).getD button.title))]

/-- A card; parts that are left out or empty are not sent. -/
def cardJson (card : OutboundCard) : Json :=
  let optional (name : String) (text : Option String) : List (String × Json) :=
    ((nonEmpty text).map fun value => (name, Json.str value)).toList
  let buttons : List (String × Json) :=
    if card.buttons.isEmpty then [] else [("buttons", .arr (card.buttons.map buttonJson))]
  .obj (("title", .str card.title) :: optional "subtitle" card.subtitle ++
    optional "image_url" card.imageUrl ++ buttons)

def attachment (kind : String) (payload : Json) : Json :=
  .obj [("attachment", .obj [("type", .str kind), ("payload", payload)])]

def replyJson (reply : QuickReply) : Json :=
  .obj [("content_type", .str "text"), ("title", .str reply.title), ("payload", .str reply.payload)]

def content : Outbound → String × Json
  | .message (.text text) => ("message", .obj [("text", .str text)])
  | .message (.image url) => ("message", picture (.str url))
  | .message (.card card) =>
    ("message", attachment "template"
      (.obj [("template_type", .str "generic"), ("elements", .arr [cardJson card])]))
  | .message (.quickReplies replies) =>
    ("message", .obj [("text", .str replies.message),
      ("quick_replies", .arr (replies.buttons.map replyJson))])
  | .typing on => action on
  | .value .text given => ("message", .obj [("text", given)])
  | .value .image given => ("message", picture given)
  | .value .typing given => action given.isPresent
where
  action (on : Bool) : String × Json :=
    ("sender_action", .str (if on then "typing_on" else "typing_off"))
  picture (url : Json) : Json :=
    attachment "image" (.obj [("url", url), ("is_reusable", .bool true)])

def body (recipientId : String) (outbound : Outbound) : Json :=
  .obj [("recipient", .obj [("id", .str recipientId)]), content outbound]

def dropSlashes (url : String) : List Char := (url.toList.reverse.dropWhile (· = '/')).reverse

def endpoint (options : MessengerOptions) : Except Url.AddressFault String :=
  (Url.Address.read (dropSlashes options.graphApiUrl)).map fun address =>
    (address.under "me/messages".toList).print

def nextResponse : List Response → Response × List Response
  | [] => (.status 200, [])
  | [last] => (last, [last])
  | response :: rest => (response, rest)

def post (url token : String) (body : Json) (messenger : Messenger) : Response × Messenger :=
  let (response, responses) := nextResponse messenger.responses
  let request : PostRequest := { url, token, body, timeout := messenger.options.timeoutSeconds }
  (response, { messenger with responses, requests := messenger.requests ++ [request] })

/-- The pause planned after an attempt: twice as long each time, at most ten seconds. -/
def pauseAfter (attempt : Nat) : Nat := min (Nat.pow 2 attempt) 10

/-- Posts a message until it is no use to try again, at most `retries` more times after the first;
answers the last response. -/
def postAll (url token : String) (body : Json) : (retries attempt : Nat) → Messenger →
    Response × Messenger
  | retries, attempt, messenger =>
    let (response, messenger) := messenger.post url token body
    if response.isRetryable then
      let messenger := { messenger with waits := messenger.waits ++ [pauseAfter attempt] }
      match retries with
      | 0 => (response, messenger)
      | retries + 1 => postAll url token body retries (attempt + 1) messenger
    else (response, messenger)

def maxAttempts (options : MessengerOptions) : Nat := (max options.maxRetries 1).toNat

def target (messenger : Messenger) : Except String String :=
  match messenger.obstacle with
  | some cause => .error cause
  | none => (endpoint messenger.options).mapError (·.message)

def carry : Carrier Messenger := fun bot recipientId outbound messenger =>
  match nonEmpty bot.pageAccessToken, messenger.target with
  | none, _ => { medium := messenger }
  | some _, .error cause => { refusal := some (.broke cause), medium := messenger }
  | some token, .ok url =>
    let (response, messenger) :=
      messenger.postAll url token (body recipientId outbound)
        (maxAttempts messenger.options - 1) 0
    { refusal := response.refusal? bot.id, medium := messenger }

end Messenger

end Parley
