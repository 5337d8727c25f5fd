import Parley.Number.Binary
import Parley.Text.Ranges

/-!
Numbers written in text. Two conventions are in use: authored content may separate groups of digits
by single underscores anywhere inside the number, and settings by single underscores between two
digits, with digits of any script.
-/

namespace Parley.Number

open Parley.Text

def isAsciiDigit (c : Char) : Bool := '0' ≤ c && c ≤ '9'

def numeralValue (digits : List Char) : Nat :=
  digits.foldl (fun value c => value * 10 + (c.toNat - 0x30)) 0

def takeSign (text : List Char) : Bool × List Char :=
  match text with
  | '-' :: rest => (true, rest)
  | '+' :: rest => (false, rest)
  | _ => (false, text)

def integer? (text : List Char) : Option Int :=
  let (negative, digits) := takeSign text
  if digits.isEmpty || !digits.all isAsciiDigit then none
  else
    let size : Int := numeralValue digits
    some (if negative then -size else size)

def asciiLower (text : List Char) : List Char := text.map Char.toLower

def exponent? (text : List Char) : Option Int :=
  match text with
  | [] => some 0
  | c :: rest => if c = 'e' || c = 'E' then integer? rest else none

/-- A number in decimal digits with point and exponent, or the name of one that is not finite. -/
def real? (text : List Char) : Option Float :=
  let (negative, size) := takeSign text
  let name := asciiLower size
  if name = "inf".toList || name = "infinity".toList then
    some (if negative then -infinity else infinity)
  else if name = "nan".toList then some (0.0 / 0.0)
  else
    let whole := size.takeWhile isAsciiDigit
    let afterWhole := size.dropWhile isAsciiDigit
    let (fraction, rest) : List Char × List Char :=
      match afterWhole with
      | '.' :: more => (more.takeWhile isAsciiDigit, more.dropWhile isAsciiDigit)
      | _ => ([], afterWhole)
    if (whole ++ fraction).isEmpty then none
    else
      (exponent? rest).map fun exponent =>
        ofDecimal negative (numeralValue (whole ++ fraction)) (exponent - fraction.length)

/-- White space around a number; the four field separators do not count. -/
def isSpace (c : Char) : Bool := isBlank c && !(0x1c ≤ c.toNat && c.toNat ≤ 0x1f)

def trimSpace (text : List Char) : List Char :=
  ((text.dropWhile isSpace).reverse.dropWhile isSpace).reverse

inductive Reading where
  | number (value : Int)
  | tooLong (digits : Nat)
  | unreadable
  deriving DecidableEq, Repr

/-- Longer numbers are not read. -/
def digitLimit : Nat := 4300

/-! ### Authored content -/

def hasDoubleUnderscore : List Char → Bool
  | '_' :: '_' :: _ => true
  | _ :: rest => hasDoubleUnderscore rest
  | [] => false

/-- A text without its underscores, if they stand alone and inside. -/
def dropGroups? (text : List Char) : Option (List Char) :=
  if text.head? = some '_' || text.getLast? = some '_' || hasDoubleUnderscore text then none
  else some (text.filter (· ≠ '_'))

/-- An authored number from its first significant digit or its minus sign on. One zero stays if
nothing else is left or a point follows; single underscores between leading zeros go with them. -/
def dropLeadingZeros? (afterGroup : Bool) : List Char → Option (List Char)
  | [] => some (if afterGroup then ['_'] else ['0'])
  | '0' :: rest => dropLeadingZeros? false rest
  | '_' :: rest => if afterGroup then none else dropLeadingZeros? true rest
  | '.' :: rest => some ((if afterGroup then '_' else '0') :: '.' :: rest)
  | c :: rest => if isAsciiDigit c || c = '-' then some (c :: rest) else none

def significant? (text : List Char) : Option (List Char) :=
  match text with
  | '0' :: rest => dropLeadingZeros? false rest
  | c :: _ => if isAsciiDigit c || c = '-' then some text else none
  | [] => none

/-- The part before a point that zeros follow, at least one. -/
def dropZeroFraction (text : List Char) : List Char :=
  match text.dropWhile (· ≠ '.') with
  | '.' :: '0' :: zeros => if zeros.all (· = '0') then text.takeWhile (· ≠ '.') else text
  | _ => text

/-- A plus sign may stand in front, but not in front of another sign. -/
def dropPlus? (text : List Char) : Option (List Char) :=
  match text with
  | '+' :: '+' :: _ => none
  | '+' :: '-' :: _ => none
  | '+' :: rest => some rest
  | _ => some text

def shortestInteger (text : List Char) : Reading :=
  let (negative, size) : Bool × List Char :=
    match text with
    | '-' :: rest => (true, rest)
    | _ => (false, text)
  let digits := size.takeWhile isAsciiDigit
  if digits.isEmpty || (size.head? = some '0' && size ≠ ['0']) then .unreadable
  else if digits.length > digitLimit then .tooLong digits.length
  else if digits.length ≠ size.length then .unreadable
  else
    let value : Int := numeralValue digits
    .number (if negative then -value else value)

/-- The integer that an authored text stands for; a point may follow with zeros only. -/
def authoredInt (text : String) : Reading :=
  let cleaned := do
    let number ← significant? (← dropPlus? (trimSpace text.toList))
    dropGroups? (dropZeroFraction number)
  match cleaned with
  | some chars => shortestInteger chars
  | none => .unreadable

/-- The number that an authored text stands for: white space may surround a number without groups,
and groups of digits may be set apart in one without white space. -/
def authoredFloat? (text : String) : Option Float :=
  real? (trimSpace text.toList) <|> (dropGroups? text.toList).bind real?

/-! ### Settings -/

def plainDigit (c : Char) : Char :=
  match digitValue? c with
  | some value => Char.ofNat (0x30 + value)
  | none => c

/-- A text without its underscores, if each stands between two digits; `last` says whether a digit
stands in front. -/
def dropSeparators? (last : Bool) : List Char → Option (List Char)
  | [] => some []
  | ['_'] => none
  | '_' :: c :: rest =>
    if last && isAsciiDigit c then (dropSeparators? true rest).map (c :: ·) else none
  | c :: rest => (dropSeparators? (isAsciiDigit c) rest).map (c :: ·)

def settingChars (text : String) : List Char := (trimSpace text.toList).map plainDigit

def settingInt (text : String) : Reading :=
  let (negative, size) := takeSign (settingChars text)
  let run := size.takeWhile fun c => isAsciiDigit c || c = '_'
  match dropSeparators? false run with
  | none => .unreadable
  | some digits =>
    if digits.length > digitLimit then .tooLong digits.length
    else if digits.isEmpty || run.length ≠ size.length then .unreadable
    else
      let value : Int := numeralValue digits
      .number (if negative then -value else value)

def settingFloat? (text : String) : Option Float :=
  (dropSeparators? false (settingChars text)).bind real?

end Parley.Number
