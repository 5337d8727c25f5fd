import Parley.Json.Display
import Parley.Settings.Basic

/-!
Which events are written to the log, and as what.
-/

namespace Parley.Logging

inductive Level where
  | debug
  | info
  | warning
  | error
  | critical
  deriving DecidableEq, Repr

namespace Level

def name : Level → String
  | .debug => "debug"
  | .info => "info"
  | .warning => "warning"
  | .error => "error"
  | .critical => "critical"

def severity : Level → Nat
  | .debug => 10
  | .info => 20
  | .warning => 30
  | .error => 40
  | .critical => 50

def ofMethod? (name : String) : Option Level :=
  match name with
  | "debug" => some .debug
  | "info" => some .info
  | "msg" => some .info
  | "warning" => some .warning
  | "warn" => some .warning
  | "error" => some .error
  | "exception" => some .error
  | "critical" => some .critical
  | "fatal" => some .critical
  | _ => none

end Level

/-- A character as it stands in the name of a level. Besides the plain letters, a dotless i and a
long s have a plain capital. -/
def capital (c : Char) : Char :=
  if c = 'ı' then 'I' else if c = 'ſ' then 'S' else c.toUpper

/-- Settings that have a meaning, but not that of a level. -/
inductive Misnomer where
  | format
  | formats
  deriving DecidableEq, Repr

/-- The least severity that a setting lets through; a setting that has no meaning means `info`. -/
def threshold (setting : Json) : Except Misnomer Nat :=
  match setting.display.map capital with
  | "NOTSET" => .ok 0
  | "DEBUG" => .ok Level.debug.severity
  | "WARNING" => .ok Level.warning.severity
  | "WARN" => .ok Level.warning.severity
  | "ERROR" => .ok Level.error.severity
  | "CRITICAL" => .ok Level.critical.severity
  | "FATAL" => .ok Level.critical.severity
  | "BASIC_FORMAT" => .error .format
  | "_STYLES" => .error .formats
  | _ => .ok Level.info.severity

structure Event where
  level : Level
  name : Json
  fields : List (String × Json) := []

/-- Fields with which an event asks for more about where it happened; they are not written. -/
def requests : List String := ["exc_info", "stack_info", "timestamp"]

def Event.toJson (event : Event) : Json :=
  let own := event.fields.filter fun (name, _) => !requests.contains name
  let named := match event.name with
    | .null => own
    | name => Json.put "event" name own
  .obj (Json.put "level" (.str event.level.name) named)

def written (threshold : Nat) (events : List Event) : List Event :=
  events.filter fun event => threshold ≤ event.level.severity

end Parley.Logging
