/-!
The variables of a conversation: texts under names, in the order in which the names were first set.
-/

namespace Parley

abbrev Context := List (String × String)

namespace Context

def get? (name : String) : Context → Option String
  | [] => none
  | (key, value) :: rest => if key = name then some value else get? name rest

/-- Sets a variable: in its old place if the name is there, at the end if it is new. -/
def set (name value : String) : Context → Context
  | [] => [(name, value)]
  | (key, old) :: rest =>
    if key = name then (key, value) :: rest else (key, old) :: set name value rest

theorem get?_set_same (name value : String) (context : Context) :
    (context.set name value).get? name = some value := by
  induction context with
  | nil => simp [set, get?]
  | cons entry rest ih =>
    obtain ⟨key, old⟩ := entry
    by_cases same : key = name <;> simp [set, get?, same, ih]

theorem get?_set_other {name other : String} (differ : other ≠ name) (value : String)
    (context : Context) : (context.set name value).get? other = context.get? other := by
  induction context with
  | nil => simp [set, get?, Ne.symm differ]
  | cons entry rest ih =>
    obtain ⟨key, old⟩ := entry
    by_cases same : key = name
    · subst same; simp [set, get?, Ne.symm differ]
    · by_cases hit : key = other
      · subst hit; simp [set, get?, differ]
      · simp [set, get?, same, hit, ih]

end Context

end Parley
