import Parley.Text.Lowercase
import Parley.Text.Ranges
import Parley.Text.Search

/-!
Triggers: words that start a block or a flow when a message contains them. Message and trigger are
compared without the white space around them and in lower case.
-/

namespace Parley.Trigger

open Parley.Text

def normalize (text : String) : List Char := lower (trim text.toList)

/-- Whether a trigger occurs in a normalized message; a blank trigger never does. -/
def matchesTrigger (message : List Char) (trigger : String) : Bool :=
  let needle := normalize trigger
  !needle.isEmpty && (message = needle || occursIn needle message)

def matchesAny (message : List Char) (triggers : List String) : Bool :=
  triggers.any (matchesTrigger message)

def firstMatch {α : Type} (triggers : α → List String) (message : String) (candidates : List α) :
    Option α :=
  candidates.find? fun candidate => matchesAny (normalize message) (triggers candidate)

end Parley.Trigger
