import Parley.Json.Cut
import Parley.Schema.Reader
import Parley.Settings.Basic
import Parley.Template

/-!
How settings are read. A text may name variables of the environment, which are filled in first; a
setting that is left out has its default.
-/

namespace Parley

open Number Schema

inductive SettingsError where
  | notMapping
  | notWhole (fault : CutFault)
  | notNumber
  | unreadableFloat (text : String)
  | tooLarge
  deriving DecidableEq, Repr

namespace SettingsError

def message : SettingsError → String
  | .notMapping => "not a mapping"
  | .notWhole fault => fault.message
  | .notNumber => "not a number"
  | .unreadableFloat text =>
    "could not convert string to float: " ++ String.ofList (Text.quoted text.toList)
  | .tooLarge => "number too large"

end SettingsError

abbrev Environment := List (String × String)

namespace Environment

def get? (name : String) : Environment → Option String
  | [] => none
  | (key, value) :: rest => if key = name then some value else get? name rest

def fillText (environment : Environment) (text : String) : String :=
  Template.fillMarks Template.dollar (fun name => environment.get? name) text

mutual

/-- A value with the variables filled into all its texts; names of fields stay as they are. -/
def fill (environment : Environment) : Json → Json
  | .str text => .str (environment.fillText text)
  | .arr items => .arr (fillItems environment items)
  | .obj fields => .obj (fillFields environment fields)
  | value => value

def fillItems (environment : Environment) : List Json → List Json
  | [] => []
  | item :: rest => fill environment item :: fillItems environment rest

def fillFields (environment : Environment) : Fields → Fields
  | [] => []
  | (name, value) :: rest => (name, fill environment value) :: fillFields environment rest

end

end Environment

namespace Settings

abbrev Outcome := Except SettingsError

def cutInt (written : Json) : Outcome Int := written.cut.mapError .notWhole

def float : Json → Outcome Float
  | .bool value => .ok (if value then 1 else 0)
  | .int n => if isFinite (floatOfInt n) then .ok (floatOfInt n) else .error .tooLarge
  | .float x => .ok x
  | .str text =>
    match settingFloat? text with
    | some x => .ok x
    | none => .error (.unreadableFloat text)
  | _ => .error .notNumber

variable {α : Type}

def orDefault (fields : Fields) (name : String) (default : α) (read : Json → Outcome α) :
    Outcome α :=
  match Json.lookup name fields with
  | some value => read value
  | none => .ok default

def asWritten (fields : Fields) (name : String) (default : Json) : Json :=
  (Json.lookup name fields).getD default

def sectionOr (fields : Fields) (name : String) (default : α) (read : Fields → Outcome α) :
    Outcome α :=
  match Json.lookup name fields with
  | none => .ok default
  | some (.obj given) => read given
  | some _ => .error .notMapping

def readEngine (fields : Fields) : Outcome EngineSettings := do
  let d : EngineSettings := {}
  return {
    maxSteps := ← orDefault fields "max_steps" d.maxSteps cutInt
    maxDelaySeconds := ← orDefault fields "max_delay_seconds" d.maxDelaySeconds float
    bootstrapDefaultBlocks := asWritten fields "bootstrap_default_blocks" d.bootstrapDefaultBlocks
    interruptKeywords := asWritten fields "interrupt_keywords" d.interruptKeywords
    apologyMessage := asWritten fields "apology_message" d.apologyMessage
    notConfiguredMessage := asWritten fields "not_configured_message" d.notConfiguredMessage
    welcomeText := asWritten fields "welcome_text" d.welcomeText
    defaultAnswerText := asWritten fields "default_answer_text" d.defaultAnswerText }

def readDatabase (fields : Fields) : Outcome DatabaseSettings := do
  let d : DatabaseSettings := {}
  return {
    url := asWritten fields "url" d.url
    storeBackend := asWritten fields "store_backend" d.storeBackend
    poolSize := ← orDefault fields "pool_size" d.poolSize cutInt }

def readMessenger (fields : Fields) : Outcome MessengerSettings := do
  let d : MessengerSettings := {}
  return {
    graphApiUrl := asWritten fields "graph_api_url" d.graphApiUrl
    timeoutSeconds := ← orDefault fields "timeout_seconds" d.timeoutSeconds float
    maxRetries := ← orDefault fields "max_retries" d.maxRetries cutInt }

def readQueue (fields : Fields) : Outcome QueueSettings := do
  let d : QueueSettings := {}
  return {
    mailboxSize := ← orDefault fields "mailbox_size" d.mailboxSize cutInt
    idleTimeoutSeconds :=
      .float (← orDefault fields "idle_timeout_seconds" d.idleTimeoutSeconds.real float) }

def readFields (fields : Fields) : Outcome Settings := do
  let d : Settings := {}
  return {
    appName := asWritten fields "app_name" d.appName
    debug := asWritten fields "debug" d.debug
    logLevel := asWritten fields "log_level" d.logLevel
    logJson := asWritten fields "log_json" d.logJson
    engine := ← sectionOr fields "engine" d.engine readEngine
    database := ← sectionOr fields "database" d.database readDatabase
    messenger := ← sectionOr fields "messenger" d.messenger readMessenger
    queue := ← sectionOr fields "queue" d.queue readQueue }

/-- Reads settings as they are written; nothing written means all defaults. -/
def read (environment : Environment) (written : Json) : Outcome Settings :=
  if !written.isPresent then .ok {}
  else
    match environment.fill written with
    | .obj fields => readFields fields
    | _ => .error .notMapping

end Settings

end Parley
