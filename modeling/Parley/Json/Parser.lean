import Parley.Json.Basic
import Parley.Number.Numeral

/-!
Reading JSON text. Besides the standard grammar the names of the three numbers that are not finite
are accepted, integers of more than 4300 digits are not; of two fields with one name the later value counts.
-/

namespace Parley.Json

open Parley.Number

def skipSpace (text : List Char) : List Char :=
  text.dropWhile fun c => c = ' ' || c = '\t' || c = '\n' || c = '\r'

def hexValue (c : Char) : Option Nat :=
  if '0' ≤ c && c ≤ '9' then some (c.toNat - 0x30)
  else if 'a' ≤ c && c ≤ 'f' then some (c.toNat - 0x57)
  else if 'A' ≤ c && c ≤ 'F' then some (c.toNat - 0x37)
  else none

def hexQuad (a b c d : Char) : Option Nat := do
  let a ← hexValue a
  let b ← hexValue b
  let c ← hexValue c
  let d ← hexValue d
  return ((a * 16 + b) * 16 + c) * 16 + d

def isHighSurrogate (n : Nat) : Bool := 0xd800 ≤ n && n < 0xdc00

def isLowSurrogate (n : Nat) : Bool := 0xdc00 ≤ n && n < 0xe000

def joinSurrogates (high low : Nat) : Char :=
  Char.ofNat (0x10000 + (high - 0xd800) * 0x400 + (low - 0xdc00))

def escapedLetter (c : Char) : Option Char :=
  match c with
  | '"' => some '"'
  | '\\' => some '\\'
  | '/' => some '/'
  | 'b' => some '\x08'
  | 'f' => some '\x0c'
  | 'n' => some '\n'
  | 'r' => some '\r'
  | 't' => some '\t'
  | _ => none

/-- The rest of a string literal, where `done` holds what was read of it, last first. -/
def parseText (done : List Char) : List Char → Option (String × List Char)
  | '"' :: rest => some (String.ofList done.reverse, rest)
  | '\\' :: 'u' :: a :: b :: c :: d :: '\\' :: 'u' :: e :: f :: g :: h :: rest =>
    match hexQuad a b c d, hexQuad e f g h with
    | some high, some low =>
      if isHighSurrogate high && isLowSurrogate low then
        parseText (joinSurrogates high low :: done) rest
      else parseText (Char.ofNat high :: done) ('\\' :: 'u' :: e :: f :: g :: h :: rest)
    | _, _ => none
  | '\\' :: 'u' :: a :: b :: c :: d :: rest =>
    match hexQuad a b c d with
    | some n => parseText (Char.ofNat n :: done) rest
    | none => none
  | '\\' :: c :: rest =>
    match escapedLetter c with
    | some letter => parseText (letter :: done) rest
    | none => none
  | c :: rest => if c.toNat < 0x20 || c = '\\' then none else parseText (c :: done) rest
  | [] => none
termination_by text => text.length

def takeDigits (text : List Char) : List Char × List Char :=
  (text.takeWhile Char.isDigit, text.dropWhile Char.isDigit)

/-- The digits after a point; without a digit the point is not part of the number. -/
def takeFraction (text : List Char) : Option (List Char) × List Char :=
  match text with
  | '.' :: rest =>
    let (digits, after) := takeDigits rest
    if digits.isEmpty then (none, text) else (some digits, after)
  | _ => (none, text)

def takeExponent (text : List Char) : Option Int × List Char :=
  match text with
  | c :: rest =>
    if c = 'e' || c = 'E' then
      let (negative, digitsOn) : Bool × List Char :=
        match rest with
        | '-' :: more => (true, more)
        | '+' :: more => (false, more)
        | _ => (false, rest)
      let (digits, after) := takeDigits digitsOn
      if digits.isEmpty then (none, text)
      else
        let size : Int := numeralValue digits
        (some (if negative then -size else size), after)
    else (none, text)
  | [] => (none, text)

def parseNumber (negative : Bool) (text : List Char) : Option (Json × List Char) :=
  let (whole, afterWhole) : List Char × List Char :=
    match text with
    | '0' :: rest => (['0'], rest)
    | _ => takeDigits text
  if whole.isEmpty then none
  else
    let (fraction, afterFraction) := takeFraction afterWhole
    let (exponent, rest) := takeExponent afterFraction
    match fraction, exponent with
    | none, none =>
      let size : Int := numeralValue whole
      if whole.length > digitLimit then none
      else some (.int (if negative then -size else size), rest)
    | _, _ =>
      let decimals := fraction.getD []
      some (.float (ofDecimal negative (numeralValue (whole ++ decimals))
        (exponent.getD 0 - decimals.length)), rest)

def dropWord (word : String) (text : List Char) : Option (List Char) :=
  if word.toList.isPrefixOf text then some (text.drop word.length) else none

def parseName (text : List Char) : Option (Json × List Char) :=
  let names : List (String × Json) :=
    [("null", .null), ("true", .bool true), ("false", .bool false), ("NaN", .float (0.0 / 0.0)),
      ("Infinity", .float infinity), ("-Infinity", .float (-infinity))]
  names.findSome? fun (word, value) => (dropWord word text).map (value, ·)

mutual

/-- Reads one value, with `fuel` more than the number of characters it may look at. -/
def parseValue : Nat → List Char → Option (Json × List Char)
  | 0, _ => none
  | fuel + 1, text =>
    match skipSpace text with
    | '"' :: rest => (parseText [] rest).map fun (value, after) => (.str value, after)
    | '[' :: rest =>
      match skipSpace rest with
      | ']' :: after => some (.arr [], after)
      | items => (parseItems fuel items).map fun (values, after) => (.arr values, after)
    | '{' :: rest =>
      match skipSpace rest with
      | '}' :: after => some (.obj [], after)
      | fields => (parseFields fuel [] fields).map fun (values, after) => (.obj values, after)
    | '-' :: rest =>
      match parseName ('-' :: rest) with
      | some found => some found
      | none => parseNumber true rest
    | other =>
      match parseName other with
      | some found => some found
      | none => parseNumber false other

def parseItems : Nat → List Char → Option (List Json × List Char)
  | 0, _ => none
  | fuel + 1, text =>
    match parseValue fuel text with
    | none => none
    | some (item, after) =>
      match skipSpace after with
      | ']' :: rest => some ([item], rest)
      | ',' :: rest => (parseItems fuel rest).map fun (items, last) => (item :: items, last)
      | _ => none

/-- Reads the fields of an object up to its brace, after the fields in `done`. -/
def parseFields : Nat → List (String × Json) → List Char →
    Option (List (String × Json) × List Char)
  | 0, _, _ => none
  | fuel + 1, done, text =>
    match skipSpace text with
    | '"' :: keyOn =>
      match parseText [] keyOn with
      | none => none
      | some (key, afterKey) =>
        match skipSpace afterKey with
        | ':' :: valueOn =>
          match parseValue fuel valueOn with
          | none => none
          | some (value, afterValue) =>
            let fields := put key value done
            match skipSpace afterValue with
            | '}' :: rest => some (fields, rest)
            | ',' :: rest => parseFields fuel fields rest
            | _ => none
        | _ => none
    | _ => none

end

def parse? (text : String) : Option Json :=
  let chars := text.toList
  match parseValue (chars.length + 1) chars with
  | some (value, rest) => if (skipSpace rest).isEmpty then some value else none
  | none => none

end Parley.Json
