import Parley.Store.Storage

/-!
What is recorded beside a conversation: who wrote, what was said, and the counters of the day. When
the store fails here, the conversation goes on.
-/

namespace Parley

structure Visit where
  contact : Contact
  /-- Whether the sender had not written before on this day. -/
  firstToday : Bool
  deriving DecidableEq, Repr

namespace Bookkeeping

def attempt {α : Type} (action : StoreM α) : StateM Storage (Option α) := do
  match ← action.run with
  | .ok value => return some value
  | .error _ => return none

def recordVisit (botId senderId : String) (profile : Storage.Profile) : StoreM Visit := do
  let previous ← Storage.getContact botId senderId
  let contact ← Storage.upsertContact botId senderId profile
  match previous with
  | none => return { contact, firstToday := true }
  | some previous =>
    return { contact, firstToday := previous.lastSeenAt.day ≠ (← Storage.draw Source.today) }

def track (botId senderId : String) (profile : Storage.Profile) : StateM Storage (Option Visit) :=
  attempt (recordVisit botId senderId profile)

def addMessage (botId senderId content : String) (direction : Direction) (messageType : String) :
    StoreM Unit := do
  let id ← Storage.draw Source.freshId
  let timestamp ← Storage.draw Source.now
  Storage.addEntry { id, botId, senderId, content, direction, messageType, timestamp }

def countMessage (botId : String) (direction : Direction) (newUser : Bool) : StoreM Unit := do
  let day ← Storage.draw Source.today
  let _ ← Storage.bumpCount botId day direction newUser

def recordMessage (botId senderId content : String) (direction : Direction)
    (messageType : String) (newUser : Bool) : StoreM Unit := do
  addMessage botId senderId content direction messageType
  countMessage botId direction newUser

/-- Adds a message to the log and counts it; says whether both worked. -/
def log (botId senderId content : String) (direction : Direction) (messageType : String)
    (newUser : Bool) : StateM Storage Bool := do
  return (← attempt (recordMessage botId senderId content direction messageType newUser)).isSome

end Bookkeeping

end Parley
