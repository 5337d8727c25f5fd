import Parley.Json.Basic
import Parley.Number.Binary

/-!
Parts of a JSON value for readers that take what they find. A value of another type than asked for
counts as null, zero, empty or false.
-/

namespace Parley.Json

open Parley.Number

def field (value : Json) (name : String) : Json := (value.get? name).getD .null

def fieldOr (value : Json) (name : String) (default : Json) : Json := (value.get? name).getD default

def text? : Json → Option String
  | .str content => some content
  | _ => none

def text (value : Json) : String := value.text?.getD ""

def items? : Json → Option (List Json)
  | .arr content => some content
  | _ => none

def items (value : Json) : List Json := value.items?.getD []

def texts (value : Json) : List String := value.items.map text

def fields : Json → List (String × Json)
  | .obj content => content
  | _ => []

def flag : Json → Bool
  | .bool content => content
  | _ => false

def number : Json → Rat
  | .bool value => if value then 1 else 0
  | .int n => n
  | .float x => exact x
  | _ => 0

def whole (value : Json) : Int := value.number.floor

def real : Json → Float
  | .bool value => if value then 1 else 0
  | .int n => ofDecimal (n < 0) n.natAbs 0
  | .float x => x
  | _ => 0

def withMissing (defaults : List (String × Json)) (value : Json) : Json :=
  .obj (defaults.foldl (fun own (name, default) => putNew name default own) value.fields)

end Parley.Json
