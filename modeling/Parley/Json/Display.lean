import Parley.Json.Basic
import Parley.Number.Shortest
import Parley.Text.Quoted

/-!
How a JSON value reads inside a message: a text stands for itself, and every other value has a
notation in which texts are quoted.
-/

namespace Parley.Json

open Parley.Text Parley.Number

def intText (n : Int) : List Char :=
  if n < 0 then '-' :: digitsOf n.natAbs else digitsOf n.natAbs

def commaJoin : List (List Char) → List Char
  | [] => []
  | [last] => last
  | first :: rest => first ++ ',' :: ' ' :: commaJoin rest

mutual

def shown : Json → List Char
  | .null => "None".toList
  | .bool true => "True".toList
  | .bool false => "False".toList
  | .int n => intText n
  | .float x => floatText x
  | .str text => quoted text.toList
  | .arr items => '[' :: commaJoin (shownItems items) ++ [']']
  | .obj fields => '{' :: commaJoin (shownFields fields) ++ ['}']

def shownItems : List Json → List (List Char)
  | [] => []
  | item :: rest => shown item :: shownItems rest

def shownFields : List (String × Json) → List (List Char)
  | [] => []
  | (key, value) :: rest =>
    (quoted key.toList ++ ':' :: ' ' :: shown value) :: shownFields rest

end

def display : Json → String
  | .str text => text
  | value => String.ofList (shown value)

end Parley.Json
