/-!
JSON values. Integers of any size are kept apart from floating-point numbers, and an object keeps
the order of its fields.
-/

namespace Parley

inductive Json where
  | null
  | bool (value : Bool)
  | int (value : Int)
  | float (value : Float)
  | str (value : String)
  | arr (items : List Json)
  | obj (fields : List (String × Json))
  deriving Inhabited

namespace Json

def lookup (name : String) : List (String × Json) → Option Json
  | [] => none
  | (key, value) :: rest => if key = name then some value else lookup name rest

/-- Sets a field: in its old place if the name is there, at the end if it is new. -/
def put (name : String) (value : Json) : List (String × Json) → List (String × Json)
  | [] => [(name, value)]
  | (key, old) :: rest =>
    if key = name then (key, value) :: rest else (key, old) :: put name value rest

def putNew (name : String) (value : Json) (fields : List (String × Json)) : List (String × Json) :=
  match lookup name fields with
  | some _ => fields
  | none => fields ++ [(name, value)]

def get? (value : Json) (name : String) : Option Json :=
  match value with
  | .obj fields => lookup name fields
  | _ => none

/-- Everything counts as present except null, false, zero and what is empty. -/
def isPresent : Json → Bool
  | .null => false
  | .bool value => value
  | .int value => value ≠ 0
  | .float value => value != 0
  | .str value => value ≠ ""
  | .arr items => !items.isEmpty
  | .obj fields => !fields.isEmpty

def ofOption (text : Option String) : Json :=
  match text with
  | some value => .str value
  | none => .null

theorem lookup_put_same (name : String) (value : Json) (fields : List (String × Json)) :
    lookup name (put name value fields) = some value := by
  induction fields with
  | nil => simp [put, lookup]
  | cons field rest ih =>
    obtain ⟨key, old⟩ := field
    by_cases same : key = name <;> simp [put, lookup, same, ih]

theorem lookup_put_other {name other : String} (differ : other ≠ name) (value : Json)
    (fields : List (String × Json)) :
    lookup other (put name value fields) = lookup other fields := by
  induction fields with
  | nil => simp [put, lookup, Ne.symm differ]
  | cons field rest ih =>
    obtain ⟨key, old⟩ := field
    by_cases same : key = name
    · subst same; simp [put, lookup, Ne.symm differ]
    · by_cases hit : key = other
      · subst hit; simp [put, lookup, differ]
      · simp [put, lookup, same, hit, ih]

end Json

end Parley
