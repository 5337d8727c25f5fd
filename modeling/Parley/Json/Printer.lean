import Parley.Json.Display

/-!
The text of a JSON value.
-/

namespace Parley.Json

open Parley.Text Parley.Number

def escapedChar (c : Char) : List Char :=
  if c = '"' then ['\\', '"']
  else if c = '\\' then ['\\', '\\']
  else if c.toNat < 0x20 then '\\' :: 'u' :: hexDigits 4 c.toNat
  else [c]

def printText (text : String) : List Char := '"' :: text.toList.flatMap escapedChar ++ ['"']

def printFloat (x : Float) : List Char :=
  match Binary.ofFloat x with
  | .notANumber => "NaN".toList
  | .infinite negative => (if negative then "-Infinity" else "Infinity").toList
  | .finite .. => floatText x

mutual

def printChars : Json → List Char
  | .null => "null".toList
  | .bool true => "true".toList
  | .bool false => "false".toList
  | .int n => intText n
  | .float x => printFloat x
  | .str text => printText text
  | .arr items => '[' :: commaJoin (printItems items) ++ [']']
  | .obj fields => '{' :: commaJoin (printFields fields) ++ ['}']

def printItems : List Json → List (List Char)
  | [] => []
  | item :: rest => printChars item :: printItems rest

def printFields : List (String × Json) → List (List Char)
  | [] => []
  | (key, value) :: rest => (printText key ++ ':' :: ' ' :: printChars value) :: printFields rest

end

def print (value : Json) : String := String.ofList (printChars value)

end Parley.Json
