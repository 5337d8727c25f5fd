import Parley.Json.Cut
import Parley.Number.Shortest

/-!
What a column of the database keeps of a value that is given to it. A column of texts keeps a number
as its text, and a column of numbers keeps a text that reads as a number as that number; a column of
numbers may hold any text.
-/

namespace Parley

open Number

inductive ColumnFault where
  | unknown
  /-- The column takes only some values, and this is none of them. -/
  | unfit
  /-- No column holds such a value. -/
  | unstorable
  | tooLarge
  | empty
  deriving DecidableEq, Repr

inductive Cell where
  | int (value : Int)
  | real (value : Float)
  | text (value : String)

namespace Cell

/-- Integers outside 64 bits are not kept. -/
def isLong (n : Int) : Bool := n < -Nat.pow 2 63 || Nat.pow 2 63 ≤ n

/-- A number that is given with a point; whole ones are kept as integers. -/
def ofReal (x : Float) : Cell :=
  let value := exact x
  if isFinite x && value.den = 1 && -Nat.pow 2 63 < value.num && value.num < Nat.pow 2 63 then
    .int value.num
  else .real x

def isNumberChar (c : Char) : Bool := isAsciiDigit c || "+-.eE".contains c

def isPlainSpace (c : Char) : Bool := c = ' ' || (9 ≤ c.toNat && c.toNat ≤ 13)

def ofText (content : String) : Cell :=
  let trimmed := ((content.toList.dropWhile isPlainSpace).reverse.dropWhile isPlainSpace).reverse
  if trimmed.all isNumberChar then
    match (integer? trimmed).filter (!isLong ·), real? trimmed with
    | some n, _ => .int n
    | none, some x => ofReal x
    | none, none => .text content
  else .text content

/-- What a column of numbers keeps; nothing of null. -/
def ofJson : Json → Except ColumnFault (Option Cell)
  | .null => .ok none
  | .bool value => .ok (some (.int (if value then 1 else 0)))
  | .int n => if isLong n then .error .tooLarge else .ok (some (.int n))
  | .float x => .ok (some (ofReal x))
  | .str content => .ok (some (ofText content))
  | .arr _ => .error .unstorable
  | .obj _ => .error .unstorable

def textOfJson : Json → Except ColumnFault (Option String)
  | .null => .ok none
  | .bool value => .ok (some (if value then "1" else "0"))
  | .int n => if isLong n then .error .tooLarge else .ok (some (toString n))
  | .float x => .ok (some (columnText x))
  | .str content => .ok (some content)
  | .arr _ => .error .unstorable
  | .obj _ => .error .unstorable

def boolOfJson : Json → Except ColumnFault (Option Bool)
  | .null => .ok none
  | .bool value => .ok (some value)
  | .int 0 => .ok (some false)
  | .int 1 => .ok (some true)
  | .float x => if x == 0 then .ok (some false) else if x == 1 then .ok (some true) else .error .unfit
  | _ => .error .unfit

def toJson : Cell → Json
  | .int value => .int value
  | .real value => .float value
  | .text value => .str value

/-- The exact value of a number; an infinite one is beyond all others. -/
def rank : Cell → Rat
  | .int value => value
  | .real value =>
    match Binary.ofFloat value with
    | .infinite negative => if negative then -(Nat.pow 10 400 : Nat) else (Nat.pow 10 400 : Nat)
    | _ => exact value
  | .text _ => 0

def le : Cell → Cell → Bool
  | .text value, .text other => value ≤ other
  | .text _, _ => false
  | _, .text _ => true
  | cell, other => cell.rank ≤ other.rank

def eq (cell other : Cell) : Bool := le cell other && le other cell

/-- Whether a row with a cell is scanned before another, where a second key decides between equal
cells. -/
def before (cell other : Cell) (second : Bool) : Bool :=
  if eq cell other then second else le cell other

def greatest? : List Cell → Option Cell
  | [] => none
  | cell :: rest =>
    match greatest? rest with
    | none => some cell
    | some other => some (if le other cell then cell else other)

end Cell

end Parley
