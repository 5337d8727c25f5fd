import Parley.Json.Printer

/-!
Values changed at their leaves: every text, or every number that is not finite.
-/

namespace Parley.Json

mutual

/-- A value with its leaves changed by `leaf` and the names of its fields by `name`. -/
def mapLeaves (leaf : Json → Json) (name : String → String) : Json → Json
  | .arr items => .arr (mapItems leaf name items)
  | .obj fields => .obj (mapFields leaf name fields)
  | other => leaf other

def mapItems (leaf : Json → Json) (name : String → String) : List Json → List Json
  | [] => []
  | item :: rest => mapLeaves leaf name item :: mapItems leaf name rest

def mapFields (leaf : Json → Json) (name : String → String) :
    List (String × Json) → List (String × Json)
  | [] => []
  | (key, value) :: rest => (name key, mapLeaves leaf name value) :: mapFields leaf name rest

end

/-- A value with all its texts changed, names of fields included. -/
def mapTexts (f : String → String) : Json → Json :=
  mapLeaves (fun leaf => match leaf with
    | .str content => .str (f content)
    | other => other) f

/-- A value in which an object stands for each number that is not finite. -/
def onlyFinite : Json → Json :=
  mapLeaves (fun leaf => match leaf with
    | .float x =>
      if Number.isFinite x then .float x
      else .obj [("float", .str (String.ofList (Number.floatText x)))]
    | other => other) id

end Parley.Json
