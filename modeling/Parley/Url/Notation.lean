import Parley.Text.Quoted

/-!
Notations for characters that may not stand in a URL as they are: a percent sign and two hexadecimal
digits for each byte, or a label in plain letters in the name of a host.
-/

namespace Parley.Url

open Parley.Text

def isHexDigit (c : Char) : Bool :=
  c.isDigit || ('a' ≤ c && c ≤ 'f') || ('A' ≤ c && c ≤ 'F')

def isUnreserved (c : Char) : Bool :=
  c.isAlphanum || c = '-' || c = '.' || c = '_' || c = '~'

def encodeByte (byte : UInt8) : List Char :=
  '%' :: (hexDigits 2 byte.toNat).map Char.toUpper

def encodeChar (isSafe : Char → Bool) (c : Char) : List Char :=
  if isUnreserved c || isSafe c then [c] else (String.utf8EncodeChar c).flatMap encodeByte

/-- A text with what is not safe in percent notation; what is in it already stays. -/
def encode (isSafe : Char → Bool) : List Char → List Char
  | [] => []
  | '%' :: high :: low :: rest =>
    if isHexDigit high && isHexDigit low then '%' :: high :: low :: encode isSafe rest
    else encodeChar isSafe '%' ++ encode isSafe (high :: low :: rest)
  | c :: rest => encodeChar isSafe c ++ encode isSafe rest

def hexValue (c : Char) : Nat :=
  if c.isDigit then c.toNat - 0x30
  else if 'a' ≤ c then c.toNat - 0x57
  else c.toNat - 0x37

def decodeBytes : List Char → List UInt8
  | [] => []
  | '%' :: high :: low :: rest =>
    if isHexDigit high && isHexDigit low then
      (hexValue high * 16 + hexValue low).toUInt8 :: decodeBytes rest
    else String.utf8EncodeChar '%' ++ decodeBytes (high :: low :: rest)
  | c :: rest => String.utf8EncodeChar c ++ decodeBytes rest

/-- A text without percent notation; one that would not be a text stays as it is. -/
def decode (text : String) : String :=
  (String.fromUTF8? (decodeBytes text.toList).toByteArray).getD text

end Parley.Url

/-! ## Host names

Labels of a host name in plain letters. The characters of a label that are not plain stand behind
its last hyphen, in rising order, each as the distance from the one before in a notation with base
36 whose digits adapt to the distances so far.
-/

namespace Parley.Url.Punycode

def digit (value : Nat) : Char :=
  if value < 26 then Char.ofNat (0x61 + value) else Char.ofNat (0x30 + value - 26)

/-- The least and the greatest threshold of a digit. -/
def threshold (weight bias : Nat) : Nat :=
  if weight ≤ bias then 1 else if bias + 26 ≤ weight then 26 else weight - bias

theorem threshold_pos (weight bias : Nat) : 1 ≤ threshold weight bias := by
  unfold threshold
  repeat' split <;> try omega

/-- The digits of a distance; the last one is below its threshold. -/
def digits (bias weight distance : Nat) : List Char :=
  let least := threshold weight bias
  if distance < least then [digit distance]
  else
    digit (least + (distance - least) % (36 - least)) ::
      digits bias (weight + 36) ((distance - least) / (36 - least))
termination_by distance
decreasing_by
  have := threshold_pos weight bias
  exact Nat.lt_of_le_of_lt (Nat.div_le_self _ _) (by omega)

def shrink (distance steps : Nat) : Nat :=
  if 455 < distance then shrink (distance / 35) (steps + 36)
  else steps + 36 * distance / (distance + 38)
termination_by distance
decreasing_by exact Nat.div_lt_self (by omega) (by omega)

/-- The bias after a distance, `count` characters into the label. -/
def adapt (distance count : Nat) (first : Bool) : Nat :=
  let halved := if first then distance / 700 else distance / 2
  shrink (halved + halved / count) 0

/-- What is written so far, the distance to the next character, and how many are done. -/
structure State where
  written : List Char
  distance : Nat := 0
  bias : Nat := 72
  done : Nat

/-- Passes a character of the label when those with the number `current` are being written. -/
def pass (plain current : Nat) (state : State) (c : Char) : State :=
  if c.toNat < current then { state with distance := state.distance + 1 }
  else if c.toNat = current then
    { written := state.written ++ digits state.bias 36 state.distance
      bias := adapt state.distance (state.done + 1) (state.done = plain)
      done := state.done + 1 }
  else state

/-- Writes the characters with the given numbers, which rise from `next` on. -/
def writeAll (label : List Char) (plain : Nat) : List Nat → Nat → State → State
  | [], _, state => state
  | current :: rest, next, state =>
    let reached := { state with distance := state.distance + (current - next) * (state.done + 1) }
    let passed := label.foldl (pass plain current) reached
    writeAll label plain rest (current + 1) { passed with distance := passed.distance + 1 }

def isPlain (c : Char) : Bool := c.toNat < 0x80

def encode (label : List Char) : List Char :=
  let plain := label.filter isPlain
  let others := ((label.filter fun c => !isPlain c).map Char.toNat).eraseDups.mergeSort (· ≤ ·)
  let start : State :=
    { written := if plain.isEmpty then [] else plain ++ ['-'], done := plain.length }
  (writeAll label plain.length others 0x80 start).written

end Parley.Url.Punycode
