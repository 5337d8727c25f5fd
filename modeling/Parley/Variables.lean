import Parley.Json.Display

/-!
Variables whose values may be any JSON: what they put into a message, and what they compare as.
-/

namespace Parley.Json

/-- The text that a value puts into a message; null puts nothing. -/
def fillText : Json → String
  | .null => ""
  | value => value.display

/-- The text that a value compares as: what counts as absent compares as nothing. -/
def presentText? (value : Json) : Option String :=
  if value.isPresent then some value.display else none

def fillVariable? (values : List (String × Json)) (name : String) : Option String :=
  (lookup name values).map fillText

def compareVariable? (values : List (String × Json)) (name : String) : Option String :=
  (lookup name values).bind presentText?

end Parley.Json
