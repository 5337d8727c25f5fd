import Parley.Content.Flow
import Parley.Record.Bot
import Parley.Record.Contact
import Parley.Record.LogEntry
import Parley.Record.Session

/-!
Where fresh ids and readings of the calendar clock come from. No id is issued twice, and every
reading of the clock is later than the one before.
-/

namespace Parley

open Schema

structure Source where
  issued : Nat := 0
  micros : Int
  deriving DecidableEq, Repr

abbrev Draw := StateM Source

namespace Source

def hexDigit (n : Nat) : Char := Char.ofNat (if n < 10 then 0x30 + n else 0x57 + n)

def hexDigits : Nat → Nat → List Char
  | 0, _ => []
  | width + 1, n => hexDigits width (n / 16) ++ [hexDigit (n % 16)]

/-- An odd factor that spreads small numbers over 64 bits; being odd, it keeps them distinct. -/
def spread : Nat := 0x9e3779b97f4a7c15

def idOf (number : Nat) : String :=
  String.ofList (hexDigits 16 ((number + 1) * spread % Nat.pow 2 64))

def freshId : Draw String := do
  let source ← get
  set { source with issued := source.issued + 1 }
  return idOf source.issued

def now : Draw Timestamp := do
  let source ← get
  set { source with micros := source.micros + 1 }
  return ⟨source.micros, some 0⟩

def today : Draw Day := return (← now).day

def advance (micros : Int) (source : Source) : Source :=
  { source with micros := source.micros + micros }

def gives (key : Key) (value : Json) : Bool :=
  match value with
  | .obj fields => (pick key fields).isSome
  | _ => true

def idFor (value : Json) : Draw String := if gives (key "id") value then return "" else freshId

def timeFor (key : Key) (value : Json) : Draw Timestamp :=
  if gives key value then return ⟨0, none⟩ else now

def readBlock (value : Json) : Draw (Checked Block) := do
  let id ← idFor value
  let time ← timeFor Field.createdAt value
  return Block.read id time value

def readFlow (value : Json) : Draw (Checked Flow) := do
  let id ← idFor value
  let time ← timeFor Field.createdAt value
  return Flow.read id time value

def readBot (value : Json) : Draw (Checked Bot) := return Bot.read (← idFor value) value

/-- A session is stamped with the time of its creation and of its last change. -/
def readSession (value : Json) : Draw (Checked Session) := do
  let id ← idFor value
  let _ ← timeFor (key "created_at") value
  let _ ← timeFor (key "updated_at") value
  return Session.read id value

def newSession (botId senderId : String) : Draw Session := do
  let id ← freshId
  let _ ← now
  let _ ← now
  return { id, botId, senderId }

def readContact (value : Json) : Draw (Checked Contact) := do
  let id ← idFor value
  let first ← timeFor (key "first_seen_at") value
  let last ← timeFor (key "last_seen_at") value
  return Contact.read id first last value

def readLogEntry (value : Json) : Draw (Checked LogEntry) := do
  let id ← idFor value
  let time ← timeFor (key "timestamp") value
  return LogEntry.read id time value

end Source

end Parley
