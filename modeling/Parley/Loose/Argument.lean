import Parley.Engine.Options
import Parley.Failure
import Parley.Gateway.Guard
import Parley.Json.Access
import Parley.Logging
import Parley.Schema.Checked

/-!
Calls whose arguments are JSON of any kind, and why such a call fails.
-/

namespace Parley.Loose

inductive Fault where
  | mistyped
  | lacking
  | missing
  | misfit
  | meaningless (message : String)
  | invalid (issues : List Schema.Issue)
  | failed (failure : Failure)
  | undelivered (failure : DeliveryFailure)

abbrev Answer := Except Fault

def ofChecked {α : Type} : Schema.Checked α → Answer α
  | .valid value => .ok value
  | .invalid issues => .error (.invalid issues)

def ofKeywords : KeywordFault → Fault
  | .notList => .mistyped
  | .notText => .lacking

/-- A setting for a level that cannot be looked up among the levels, or is not found there. -/
def ofMisnomer : Logging.Misnomer → Fault
  | .format => .missing
  | .formats => .mistyped

def ofFailure {α : Type} (outcome : Except Failure α) : Answer α := outcome.mapError .failed

/-! ## Kinds of arguments

Which kinds of values count as a text, a number or a list of texts.
-/

open Number

def need (name : String) (request : Json) : Answer Json :=
  match request.get? name with
  | some value => .ok value
  | none => .error .missing

def filled (defaults : List (String × Json)) : Json → Answer Json
  | .obj fields => .ok (Json.withMissing defaults (.obj fields))
  | _ => .error .mistyped

/-- No other names are known; what is no object has no names at all. -/
def only (known : List String) : Json → Answer Unit
  | .obj fields =>
    if fields.all fun (name, _) => known.contains name then .ok () else .error .mistyped
  | _ => .error .mistyped

def asText : Json → Answer String
  | .str text => .ok text
  | _ => .error .mistyped

/-- A whole number; a truth value counts as one or zero. -/
def asWhole : Json → Answer Int
  | .bool value => .ok (if value then 1 else 0)
  | .int n => .ok n
  | _ => .error .mistyped

def number? : Json → Option Rat
  | .bool value => some (if value then 1 else 0)
  | .int n => some n
  | .float x => if isFinite x then some (exact x) else none
  | _ => none

def asNumber (value : Json) : Answer Rat :=
  match number? value with
  | some q => .ok q
  | none => .error .mistyped

/-- A text to work on: what counts as absent is the empty one, and no other value is one. -/
def textOr (fault : Fault) (value : Json) : Answer String :=
  match value with
  | .str text => .ok text
  | value => if value.isPresent then .error fault else .ok ""

def itemsOf : Json → Answer (List Json)
  | .arr items => .ok items
  | .obj fields => .ok (fields.map fun (name, _) => .str name)
  | .str text => .ok (text.toList.map fun c => .str (String.ofList [c]))
  | _ => .error .mistyped

def asCharacter : Json → Answer Char
  | .str text =>
    match text.toList with
    | [c] => .ok c
    | _ => .error .mistyped
  | _ => .error .mistyped

/-- A reply, as a text or as the list of its characters. What counts as absent is the empty one. -/
def asReply (value : Json) : Answer (List Char) := do
  if value.isPresent then (← itemsOf value).mapM asCharacter else return []

def asKey : Json → Answer Unit
  | .arr _ => .error .mistyped
  | .obj _ => .error .mistyped
  | _ => .ok ()

def kindName : Json → String
  | .null => "NoneType"
  | .bool _ => "bool"
  | .int _ => "int"
  | .float _ => "float"
  | .str _ => "str"
  | .arr _ => "list"
  | .obj _ => "dict"

def incomparable (sign kind otherKind : String) : String :=
  "'" ++ sign ++ "' not supported between instances of '" ++ kind ++ "' and '" ++ otherKind ++ "'"

def inability (value : Json) (ability : String) : String :=
  "'" ++ kindName value ++ "' object has no attribute '" ++ ability ++ "'"

end Parley.Loose
