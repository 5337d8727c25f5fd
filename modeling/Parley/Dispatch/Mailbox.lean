import Parley.Source
import Parley.Store.Storage

/-!
Jobs: incoming messages that wait for their turn, what becomes of them, and the mailboxes that they
wait in.
-/

namespace Parley

inductive Outcome (α : Type) where
  | resolved (value : α)
  | failed (message : String)
  | cancelled
  deriving DecidableEq, Repr

/-- A job ends once; whatever comes later changes nothing. -/
def Outcome.settle {α : Type} (outcome : Outcome α) (current : Option (Outcome α)) :
    Option (Outcome α) :=
  current <|> some outcome

structure SessionKey where
  botId : String
  senderId : String
  deriving DecidableEq, Repr

structure Job where
  id : String
  key : SessionKey
  message : String
  profile : Storage.Profile := {}
  receivedAt : String
  deriving DecidableEq, Repr

namespace Job

/-- A job; one without id or time of arrival takes a fresh id or a reading of the clock. -/
def receive (id : String) (key : SessionKey) (message : String) (profile : Storage.Profile)
    (receivedAt : String) : Draw Job := do
  let id ← if id = "" then ("job_" ++ ·) <$> Source.freshId else pure id
  let receivedAt ← if receivedAt = "" then Timestamp.shortText <$> Source.now else pure receivedAt
  return { id, key, message, profile, receivedAt }

def toJson (job : Job) : Json :=
  .obj [("job_id", .str job.id), ("bot_id", .str job.key.botId),
    ("sender_id", .str job.key.senderId), ("message", .str job.message),
    ("platform", .str job.profile.platform), ("received_at", .str job.receivedAt)]

end Job

/-! ## Mailboxes

Bounded queues of what waits for its turn. Whoever puts something into a full mailbox
waits, and whoever takes from an empty one waits until something comes or the time is up.
-/

structure Mailbox (α : Type) where
  /-- How much it holds; without bound if not positive. -/
  capacity : Int := 100
  queue : List α := []
  /-- How much was put in and is not yet done. -/
  unfinished : Nat := 0
  deriving DecidableEq, Repr

namespace Mailbox

variable {α : Type}

def isFull (mailbox : Mailbox α) : Bool :=
  0 < mailbox.capacity && mailbox.capacity ≤ mailbox.queue.length

def push (item : α) (mailbox : Mailbox α) : Mailbox α :=
  { mailbox with queue := mailbox.queue ++ [item], unfinished := mailbox.unfinished + 1 }

/-- Puts an item in, or gives up after `patience` seconds if there is no room. Answers whether it is
in, and how long that took. -/
def put (patience : Rat) (item : α) (mailbox : Mailbox α) : Bool × Rat × Mailbox α :=
  if mailbox.isFull then (false, patience, mailbox) else (true, 0, mailbox.push item)

def take? (mailbox : Mailbox α) : Option (α × Mailbox α) :=
  match mailbox.queue with
  | [] => none
  | item :: rest => some (item, { mailbox with queue := rest })

/-- Takes the first item, or waits in vain for as long as it may. A reader that may not wait at all
is turned away before it looks. -/
def get (timeout : Rat) (mailbox : Mailbox α) : Option α × Rat × Mailbox α :=
  if timeout ≤ 0 then (none, 0, mailbox)
  else
    match mailbox.take? with
    | some (item, rest) => (some item, 0, rest)
    | none => (none, timeout, mailbox)

def drain (mailbox : Mailbox α) : List α × Mailbox α :=
  (mailbox.queue, { mailbox with queue := [] })

def done? (mailbox : Mailbox α) : Option (Mailbox α) :=
  match mailbox.unfinished with
  | 0 => none
  | rest + 1 => some { mailbox with unfinished := rest }

end Mailbox

end Parley
