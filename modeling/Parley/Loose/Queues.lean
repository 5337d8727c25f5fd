import Parley.Dispatch.Dispatcher
import Parley.Json.Printer
import Parley.Loose.Argument

/-!
Mailboxes and dispatchers set up and driven with loose arguments, on a clock that counts in 53 binary
digits. A size that is no number is noticed when something is put in, and an idle time that is none
when a worker would wait.
-/

namespace Parley.Loose

open Number

def startClock : Clock := { precision := .binary }

/-- A size in whole items; a fraction of an item takes a whole one. -/
def asSize (value : Json) : Answer Int := do return (← asNumber value).ceil

structure Box where
  mailbox : Mailbox Json
  sized : Bool := true
  clock : Clock := startClock

inductive BoxReply where
  | value (content : Json)
  | full
  | allDone

namespace Box

def read (given : Json) : Answer Box := do
  only ["maxsize"] given
  match (given.get? "maxsize").map asSize with
  | none => return { mailbox := {} }
  | some (.ok capacity) => return { mailbox := { capacity } }
  | some (.error _) => return { mailbox := {}, sized := false }

def patience : Rat := 1

/-- Puts a value in; null if it is in. -/
def put (item : Json) (box : Box) : Answer (BoxReply × Box) := do
  if !box.sized then throw .mistyped
  let (accepted, waited, mailbox) := box.mailbox.put patience item
  let clock := box.clock.pass waited
  return (if accepted then .value .null else .full, { box with mailbox, clock })

def get (timeout : Json) (box : Box) : Answer (BoxReply × Box) :=
  match timeout, box.mailbox.take? with
  | .null, some (item, mailbox) => .ok (.value item, { box with mailbox })
  | timeout, _ => do
    let (item, waited, mailbox) := box.mailbox.get (← asNumber timeout)
    return (.value (item.getD .null), { box with mailbox, clock := box.clock.pass waited })

def drain (box : Box) : BoxReply × Box :=
  let (drained, mailbox) := box.mailbox.drain
  (.value (.arr drained), { box with mailbox })

def done (box : Box) : BoxReply × Box :=
  match box.mailbox.done? with
  | some mailbox => (.value .null, { box with mailbox })
  | none => (.allDone, box)

def call (request : Json) (box : Box) : Answer (BoxReply × Box) :=
  match request with
  | .arr [.str "put", item] => box.put item
  | .arr [.str "get", timeout] => box.get timeout
  | .arr [.str "drain"] => .ok box.drain
  | .arr [.str "done"] => .ok box.done
  | _ => .error .mistyped

end Box

/-! ### Jobs -/

/-- A job as it is shown: what is given stays as it is, except an id or a time that is empty. -/
def shownJob (given : Json) (job : Job) : Json :=
  let filled (name : String) (value : Json) : Json :=
    let own := given.field name
    if own.isPresent then own else value
  .obj [("job_id", filled "job_id" (.str job.id)), ("bot_id", .str job.key.botId),
    ("sender_id", given.field "sender_id"), ("message", given.field "message"),
    ("platform", given.fieldOr "platform" (.str job.profile.platform)),
    ("received_at", filled "received_at" (.str job.receivedAt))]

def asBotId (value : Json) : Answer String := do
  return (← ofChecked (Bot.read "" (.obj [("id", value)]))).id

def job (botId given : Json) : Answer (Draw (Json × List Json)) := do
  let bot ← asBotId botId
  only ["sender_id", "message", "platform", "name", "profile_pic", "job_id", "received_at"] given
  match given.get? "sender_id", given.get? "message" with
  | some senderId, some message =>
    let key : SessionKey := { botId := bot, senderId := senderId.text }
    let received :=
      Job.receive (given.field "job_id").text key message.text {} (given.field "received_at").text
    return do
      let job ← received
      return (shownJob given job, [botId, senderId])
  | _, _ => throw .mistyped

/-! ### Dispatchers -/

structure DispatchLimits where
  mailboxSize : Json := .int 100
  idleTimeout : Json

namespace DispatchLimits

def read (sizeName timeoutName : String) (fallback : Json) (given : Json) :
    Answer DispatchLimits := do
  only [sizeName, timeoutName] given
  return {
    mailboxSize := given.fieldOr sizeName (.int 100)
    idleTimeout := given.fieldOr timeoutName fallback }

/-- How long a worker waits; null for ever. -/
def patience (given : DispatchLimits) : Dispatcher.Patience :=
  match given.idleTimeout, number? given.idleTimeout with
  | .null, _ => .endless
  | _, some time => .seconds time
  | _, none => .unknown

def limits (given : DispatchLimits) : Dispatcher.Limits :=
  { mailboxSize := (asSize given.mailboxSize).toOption.getD 0, patience := given.patience }

end DispatchLimits

/-- What a job was submitted with: its session, and what is told about the sender, which is platform,
name and picture. -/
structure Submission where
  session : List Json
  details : List Json

namespace Submission

def read (bot sender args : Json) : Answer Submission := do
  only ["platform", "name", "profile_pic"] args
  asKey sender
  return {
    session := [bot, sender]
    details :=
      [args.fieldOr "platform" (.str "facebook"), args.field "name", args.field "profile_pic"] }

end Submission

/-- An action of a script, and what its job is submitted with if it submits one. A job whose length
is no number fails as soon as it begins. -/
def action (limits : DispatchLimits) (request : Json) :
    Answer (Dispatcher.Action × Option Submission) :=
  match request with
  | .arr (.str "submit" :: bot :: sender :: duration :: more) => do
    let extra := more.headD (.obj [])
    let botId ← asBotId bot
    let submission ← Submission.read bot sender (extra.fieldOr "args" (.obj []))
    let _ ← asSize limits.mailboxSize
    let duration := number? duration
    let assignment : Dispatcher.Assignment :=
      { key := { botId, senderId := sender.print }
        duration
        crashes := duration.isNone || (extra.field "crash").isPresent }
    return (.submit assignment, some submission)
  | .arr [.str "sleep", seconds] => do return (.sleep (← asNumber seconds), none)
  | .arr [.str "stop"] => .ok (.stop, none)
  | .arr [.str "join"] => .ok (.join, none)
  | _ => .error .mistyped

end Parley.Loose
