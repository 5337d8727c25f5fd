import Parley.Content.Node

/-!
Whether there is a handler for every kind of card or node.
-/

namespace Parley.Coverage

def missing (kinds handled : List String) : List String :=
  (kinds.filter fun kind => !handled.contains kind).mergeSort (· ≤ ·)

def cardKinds : List String := CardKind.all.map CardKind.name

def nodeKinds : List String := NodeKind.all.map NodeKind.name

def complaint? (owner : String) (kinds handled : List String) : Option String :=
  match missing kinds handled with
  | [] => none
  | names => some (owner ++ " has no handler for: " ++ ", ".intercalate names)

end Parley.Coverage
