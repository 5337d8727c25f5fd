import Parley.Logging
import Parley.Loose.Argument

/-!
Events logged with loose arguments. A method is asked for by its name, and the fields of an event may
not have the names of what they stand beside.
-/

namespace Parley.Loose

/-- The names that a field of an event may not have. One of them is only in the way of an event that
is written. -/
def takenNames (isWritten : Bool) : List String :=
  ["event", "self"] ++ if isWritten then ["method_name"] else []

def otherMethods : List String := ["bind", "log", "new"]

def event (threshold : Nat) (method name : Json) (fields : List (String × Json)) :
    Answer Logging.Event := do
  let method ← asText method
  match Logging.Level.ofMethod? method with
  | none => if otherMethods.contains method then throw .mistyped else throw .lacking
  | some level => do
    let taken := takenNames (decide (threshold ≤ level.severity))
    if fields.any fun (name, _) => taken.contains name then throw .mistyped
    return { level, name, fields }

def events (threshold : Nat) : List Json → Answer (List Logging.Event)
  | [] => return []
  | .arr (method :: name :: given) :: rest => do
    let first ← event threshold method name (given.flatMap Json.fields)
    return first :: (← events threshold rest)
  | _ => throw .mistyped

def logged (level : Json) (given : List Json) : Answer (List Json) := do
  let threshold ← (Logging.threshold level).mapError ofMisnomer
  return (Logging.written threshold (← events threshold given)).map (·.toJson)

end Parley.Loose
