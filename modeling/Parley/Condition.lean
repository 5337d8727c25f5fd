import Parley.Text.Lowercase
import Parley.Text.Search

/-!
Conditions on the variables of a conversation. Both sides are compared as lower-case texts, and a
variable that is not set compares as the empty text.
-/

namespace Parley

open Parley.Text

inductive Operator where
  | equals
  | contains
  | startsWith
  | endsWith
  deriving DecidableEq, Repr

namespace Operator

def ofName? (name : String) : Option Operator :=
  match name with
  | "equals" => some .equals
  | "contains" => some .contains
  | "startsWith" => some .startsWith
  | "endsWith" => some .endsWith
  | _ => none

def holds : Operator → List Char → List Char → Bool
  | .equals, actual, expected => actual = expected
  | .contains, actual, expected => occursIn expected actual
  | .startsWith, actual, expected => expected.isPrefixOf actual
  | .endsWith, actual, expected => expected.isSuffixOf actual

end Operator

structure Condition where
  variableName : Option String := none
  operator : Option String := none
  value : Option String := none
  deriving DecidableEq, Repr

namespace Condition

def compare (operator : Operator) (actual expected : String) : Bool :=
  operator.holds (lower actual.toList) (lower expected.toList)

/-- A condition without a variable, or with an operator that is not known, does not hold. -/
def holds (condition : Condition) (value? : String → Option String) : Bool :=
  match condition.variableName, condition.operator with
  | some name, some operator =>
    match Operator.ofName? operator with
    | some known =>
      name ≠ "" && compare known ((value? name).getD "") (condition.value.getD "")
    | none => false
  | _, _ => false

end Condition

end Parley
