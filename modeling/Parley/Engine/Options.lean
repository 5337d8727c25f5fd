import Parley.Json.Access
import Parley.Json.Display

/-!
How the engine is set up.
-/

namespace Parley

structure Options where
  /-- How many cards and nodes one turn may run. -/
  maxSteps : Int := 100
  maxStepsText : String := toString maxSteps
  maxDelaySeconds : Float := 20
  /-- Whether a bot without a default answer gets one. -/
  bootstrap : Bool := true
  /-- Messages that make the bot forget the conversation. -/
  interrupts : List String := ["restart", "start over"]
  /-- What is said when a turn fails; any value may be set, and what is absent is not said. -/
  apology : Json := .str "Sorry, something went wrong. Please try again later."
  notConfigured : Json := .str "This bot is not configured yet."
  welcomeText : String := "Welcome! How can I help you today?"
  defaultAnswerText : String :=
    "I'm sorry, I didn't understand that. Please try again or type 'help' for options."

inductive KeywordFault where
  | notList
  | notText
  deriving DecidableEq, Repr

namespace Options

/-- The text that is said for a value; what counts as absent says nothing. -/
def spoken (value : Json) : String := if value.isPresent then value.display else ""

def keyword (value : Json) : Except KeywordFault String :=
  match value with
  | .str text => .ok text
  | value => if value.isPresent then .error .notText else .ok ""

/-- Keywords: the items of a list, the names in an object, or the characters of a text. -/
def keywords : Json → Except KeywordFault (List String)
  | .arr items => items.mapM keyword
  | .obj fields => .ok (fields.map (·.1))
  | .str text => .ok (text.toList.map fun c => String.ofList [c])
  | _ => .error .notList

def ofJson (given : Json) : Except KeywordFault Options := do
  let fresh : Options := {}
  let textOr (name fallback : String) : String := ((given.get? name).map spoken).getD fallback
  let interrupts ← match given.get? "interrupt_keywords" with
    | some value => keywords value
    | none => pure fresh.interrupts
  return {
    maxSteps := ((given.get? "max_steps").map (·.whole)).getD fresh.maxSteps
    maxStepsText := ((given.get? "max_steps").map (·.display)).getD fresh.maxStepsText
    maxDelaySeconds := ((given.get? "max_delay_seconds").map (·.real)).getD fresh.maxDelaySeconds
    bootstrap := ((given.get? "bootstrap_default_blocks").map (·.isPresent)).getD fresh.bootstrap
    interrupts
    apology := given.fieldOr "apology_message" fresh.apology
    notConfigured := given.fieldOr "not_configured_message" fresh.notConfigured
    welcomeText := textOr "welcome_text" fresh.welcomeText
    defaultAnswerText := textOr "default_answer_text" fresh.defaultAnswerText }

end Options

end Parley
