import Parley.Dispatch.Dispatcher
import Parley.Turn.Execute

/-!
Messages of several senders that are there at once. Each sender's messages are handled in their
order; the senders take turns as the dispatcher lets them.
-/

namespace Parley.Interleave

/-- A message as a job that ends in the turn in which it begins. -/
def assignment (bot : Bot) (incoming : Turn.Incoming) : Dispatcher.Assignment :=
  { key := { botId := bot.id, senderId := incoming.senderId } }

/-- The positions of messages in the order in which they are handled. -/
def order (limits : Dispatcher.Limits) (bot : Bot) (messages : List Turn.Incoming) : List Nat :=
  let submits := messages.map fun incoming => Dispatcher.Action.submit (assignment bot incoming)
  (Dispatcher.runScript limits (submits ++ [.join])).begun

variable {σ : Type}

def runAll (carry : Carrier σ) (options : Options) (bot : Bot) :
    List (Nat × Turn.Incoming) → WorldM σ (List (Nat × TurnResult))
  | [] => return []
  | (position, incoming) :: rest => do
    let result ← Turn.execute carry options bot incoming
    return (position, result) :: (← runAll carry options bot rest)

/-- Handles messages that come in at once; the results are in the order of the messages. -/
def handle (carry : Carrier σ) (limits : Dispatcher.Limits) (options : Options) (bot : Bot)
    (messages : List Turn.Incoming) : WorldM σ (List TurnResult) := do
  let placed := (order limits bot messages).filterMap fun position =>
    (messages[position]?).map (position, ·)
  let results ← runAll carry options bot placed
  return (results.mergeSort fun a b => a.1 ≤ b.1).map (·.2)

end Parley.Interleave
