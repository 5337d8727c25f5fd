import Parley.Content.Block
import Parley.Content.Node
import Parley.Loose.Argument
import Parley.Reply
import Parley.Template
import Parley.Text.Search
import Parley.Trigger
import Parley.Variables

/-!
The functions on texts, called with loose arguments. A text that is absent counts as empty; of the
values that are no texts, some are refused as such, and some because they cannot do what a text can.
-/

namespace Parley.Loose

def unfilled (isKnown : String → Bool) (message : String) : Answer String :=
  if Template.fill (fun name => if isKnown name then some "" else none) message = message then
    return message
  else throw .mistyped

/-- A message with its placeholders filled. A list holds names and a text the names within it, but
they have no values. -/
def interpolate (text context : Json) : Answer String := do
  let message ← textOr .mistyped text
  match context with
  | .obj values => return Template.fill (Json.fillVariable? values) message
  | .arr items => unfilled (items.filterMap Json.text?).contains message
  | .str names => unfilled (fun name => Text.occursIn name.toList names.toList) message
  | _ => unfilled (fun _ => true) message

def strip (text : Json) : Answer String := do
  return String.ofList (Markup.strip (← textOr .mistyped text).toList)

def breakBraces (text : Json) : Answer String := do
  return String.ofList (Reply.breakBraces (← textOr .lacking text).toList)

/-- The length to which a reply may be cut, if it is longer than that. A number with a fraction can
be compared with, but not cut to. -/
def cutLength (length : Nat) (limit : Json) : Answer Int :=
  match limit with
  | .float x =>
    match number? (.float x) with
    | some q => if (length : Rat) ≤ q then .ok length else .error .mistyped
    | none => if x > 0 then .ok length else .error .mistyped
  | limit => asWhole limit

def clean (text limit : Json) : Answer String := do
  if !text.isPresent then return ""
  let chars ← asReply text
  let length := (chars.filter Reply.isKept).length
  return String.ofList (Reply.cleanChars (← cutLength length limit) chars)

/-- Whether a condition holds. Its parts are looked at one after the other, the variables only when
there is something to compare. -/
def holds (variableName operator value context : Json) : Answer Bool := do
  if !variableName.isPresent || !operator.isPresent then return false
  asKey operator
  match operator.text?.bind Operator.ofName? with
  | none => return false
  | some known =>
    match context with
    | .obj values => do
      asKey variableName
      let actual := variableName.text?.bind (Json.compareVariable? values)
      return Condition.compare known (actual.getD "") (value.presentText?.getD "")
    | _ => throw .lacking

def holdsRead (written context : Json) : Answer Bool := do
  let condition ← ofChecked (Schema.record Condition.read written)
  holds (.ofOption condition.variableName) (.ofOption condition.operator)
    (.ofOption condition.value) context

def normalize (text : Json) : Answer String := do
  return String.ofList (Trigger.normalize (← textOr .lacking text))

def matchesTrigger (message trigger : Json) : Answer Bool := do
  let message ← textOr .lacking message
  return Trigger.matchesTrigger (Trigger.normalize message) (← textOr .lacking trigger)

def firstMatch (message : Json) (blocks : List Block) : Answer (Option String) := do
  let message ← textOr .lacking message
  return (Trigger.firstMatch (·.triggers) message blocks).map (·.id)

end Parley.Loose
