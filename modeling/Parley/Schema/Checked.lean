/-!
What can be wrong with authored data and where, and checks that collect it.
-/

namespace Parley.Schema

inductive Step where
  | field (name : String)
  | index (position : Nat)
  deriving DecidableEq, Repr

inductive Problem where
  | missing
  | notText
  | notList
  | notDictionary
  | notBool
  | unreadableBool
  | notFloat
  | unreadableFloat
  | notInt
  | unreadableInt
  | longInt
  | fractionalInt
  | infiniteInt
  | unknownLiteral
  | unknownMember
  | unreadableList
  | tagMissing
  | tagUnknown
  | notModel
  | notObject
  | unreadableDate
  | dateOutOfRange
  | inexactDate
  | notDate
  | unreadableTime
  | timeOutOfRange
  | notTime
  deriving DecidableEq, Repr

def Problem.code : Problem → String
  | .missing => "missing"
  | .notText => "string_type"
  | .notList => "list_type"
  | .notDictionary => "dict_type"
  | .notBool => "bool_type"
  | .unreadableBool => "bool_parsing"
  | .notFloat => "float_type"
  | .unreadableFloat => "float_parsing"
  | .notInt => "int_type"
  | .unreadableInt => "int_parsing"
  | .longInt => "int_parsing_size"
  | .fractionalInt => "int_from_float"
  | .infiniteInt => "finite_number"
  | .unknownLiteral => "literal_error"
  | .unknownMember => "enum"
  | .unreadableList => "value_error"
  | .tagMissing => "union_tag_not_found"
  | .tagUnknown => "union_tag_invalid"
  | .notModel => "model_type"
  | .notObject => "model_attributes_type"
  | .unreadableDate => "date_from_datetime_parsing"
  | .dateOutOfRange => "date_parsing"
  | .inexactDate => "date_from_datetime_inexact"
  | .notDate => "date_type"
  | .unreadableTime => "datetime_from_date_parsing"
  | .timeOutOfRange => "datetime_parsing"
  | .notTime => "datetime_type"

structure Issue where
  path : List Step
  problem : Problem
  deriving DecidableEq, Repr

def Issue.under (step : Step) (issue : Issue) : Issue := { issue with path := step :: issue.path }

/-! ## Checks

The outcome of checking data: a value, or all that is wrong with it. The issues of two parts are
collected in order, so that one check reports every fault of a record.
-/

inductive Checked (α : Type) where
  | valid (value : α)
  | invalid (issues : List Issue)
  deriving Repr

namespace Checked

variable {α β : Type}

def map (f : α → β) : Checked α → Checked β
  | valid value => valid (f value)
  | invalid issues => invalid issues

def apply (f : Checked (α → β)) (x : Checked α) : Checked β :=
  match f, x with
  | valid f, valid x => valid (f x)
  | valid _, invalid issues => invalid issues
  | invalid issues, valid _ => invalid issues
  | invalid first, invalid second => invalid (first ++ second)

instance : Functor Checked where
  map := Checked.map

instance : Pure Checked where
  pure := valid

instance : Seq Checked where
  seq f x := apply f (x ())

instance : Applicative Checked where

def fail (problem : Problem) : Checked α := invalid [⟨[], problem⟩]

def under (step : Step) : Checked α → Checked α
  | valid value => valid value
  | invalid issues => invalid (issues.map (·.under step))

def toOption : Checked α → Option α
  | valid value => some value
  | invalid _ => none

def isValid : Checked α → Bool
  | valid _ => true
  | invalid _ => false

@[simp] theorem map_valid (f : α → β) (value : α) : (f <$> valid value) = valid (f value) := rfl

@[simp] theorem map_invalid (f : α → β) (issues : List Issue) :
    (f <$> (invalid issues : Checked α)) = invalid issues := rfl

@[simp] theorem seq_valid (f : α → β) (value : α) :
    (valid f <*> valid value) = (valid (f value) : Checked β) := rfl

@[simp] theorem under_valid (step : Step) (value : α) : (valid value).under step = valid value := rfl

end Checked

end Parley.Schema
