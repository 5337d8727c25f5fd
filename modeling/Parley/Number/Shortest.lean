import Parley.Number.Binary
import Parley.Number.Rounding

/-!
The shortest decimal digits that read back as a given floating-point number, and the notation they
are written in: positional between `1e-4` and `1e16`, with an exponent outside.
-/

namespace Parley.Number

def digitsOf (n : Nat) : List Char := Nat.toDigits 10 n

/-- How many more digits than `count` it takes until `10 ^ count` exceeds `num / den`. -/
def magnitudeUp : Nat → Nat → Nat → Nat → Nat
  | 0, count, _, _ => count
  | fuel + 1, count, num, den =>
    if num < den then count else magnitudeUp fuel (count + 1) num (den * 10)

def magnitudeDown : Nat → Nat → Nat → Nat → Nat
  | 0, count, _, _ => count
  | fuel + 1, count, num, den =>
    if den ≤ num * 10 then count else magnitudeDown fuel (count + 1) (num * 10) den

/-- The least `k` with `num / den < 10 ^ k`. -/
def magnitude (num den : Nat) : Int :=
  if den ≤ num then magnitudeUp 400 0 num den else -(magnitudeDown 400 0 num den : Int)

/-- The numbers that round to `mantissa * 2 ^ exponent`, as quarters of its last place. -/
structure Neighbourhood where
  low : Nat
  high : Nat
  closed : Bool

def neighbourhood (mantissa : Nat) (exponent : Int) : Neighbourhood where
  low := 4 * mantissa - if mantissa = leastNormal && exponent ≠ minExponent then 1 else 2
  high := 4 * mantissa + 2
  closed := mantissa % 2 = 0

/-- Whether `num / den` lies in the neighbourhood, all measured in quarters of the last place. -/
def Neighbourhood.holds (near : Neighbourhood) (num den : Nat) : Bool :=
  if near.closed then near.low * den ≤ num && num ≤ near.high * den
  else near.low * den < num && num < near.high * den

structure Decimal where
  digits : Nat
  exponent : Int
  deriving DecidableEq, Repr

/-- The quotient of `num / den` by `10 ^ place`, as a fraction. -/
def inUnitsOf (place : Int) (num den : Nat) : Nat × Nat :=
  if 0 ≤ place then (num, den * Nat.pow 10 place.toNat) else (num * Nat.pow 10 (-place).toNat, den)

/-- The fraction of `10 ^ place` over a quarter of the last place of `2 ^ exponent`. -/
def gridStep (place exponent : Int) : Nat × Nat :=
  let (tenNum, tenDen) := if 0 ≤ place then (Nat.pow 10 place.toNat, 1) else (1, Nat.pow 10 (-place).toNat)
  let (twoNum, twoDen) := scaleTwo 1 (exponent - 2)
  (tenNum * twoDen, tenDen * twoNum)

/-- The point of the grid of `10 ^ place` that reads back, the nearer of two, the even one of a tie. -/
def onGrid (mantissa : Nat) (exponent place : Int) : Option Decimal :=
  let (num, den) := scaleTwo mantissa exponent
  let (unitNum, unitDen) := inUnitsOf place num den
  let below := unitNum / unitDen
  let (stepNum, stepDen) := gridStep place exponent
  let near := neighbourhood mantissa exponent
  let fits (point : Nat) : Bool := near.holds (point * stepNum) stepDen
  let rest := 2 * (unitNum % unitDen)
  let upFirst := unitDen < rest || (rest = unitDen && below % 2 = 1)
  let order := if upFirst then [below + 1, below] else [below, below + 1]
  (order.find? fits).map fun point => ⟨point, place⟩

/-- The coarsest grid with a point that reads back, tried from one digit on. -/
def shortestFrom (mantissa : Nat) (exponent size : Int) : Nat → Nat → Decimal
  | 0, count => (onGrid mantissa exponent (size - count)).getD ⟨mantissa, 0⟩
  | fuel + 1, count =>
    match onGrid mantissa exponent (size - count) with
    | some found => found
    | none => shortestFrom mantissa exponent size fuel (count + 1)

/-- The shortest decimal that reads back as `mantissa * 2 ^ exponent`. -/
def shortest (mantissa : Nat) (exponent : Int) : Decimal :=
  let (num, den) := scaleTwo mantissa exponent
  shortestFrom mantissa exponent (magnitude num den) 16 1

def dropZeros (digits : List Char) : List Char := (digits.reverse.dropWhile (· = '0')).reverse

def exponentText (exponent : Int) : List Char :=
  let digits := digitsOf exponent.natAbs
  (if exponent < 0 then '-' else '+') ::
    (if digits.length < 2 then '0' :: digits else digits)

def positional (digits : List Char) (point : Int) : List Char :=
  if point ≤ 0 then '0' :: '.' :: List.replicate (-point).toNat '0' ++ digits
  else
    let whole := point.toNat
    let fraction := digits.drop whole
    digits.take whole ++ List.replicate (whole - digits.length) '0' ++
      '.' :: if fraction.isEmpty then ['0'] else fraction

def scientific (digits : List Char) (exponent : Int) : List Char :=
  match digits with
  | [] => []
  | first :: [] => first :: 'e' :: exponentText exponent
  | first :: rest => first :: '.' :: rest ++ 'e' :: exponentText exponent

/-- The notation of a decimal: positional from four zeros after the point up to sixteen digits. -/
def Decimal.render (d : Decimal) : List Char :=
  let all := digitsOf d.digits
  let point : Int := all.length + d.exponent
  let digits := dropZeros all
  if -4 < point && point ≤ 16 then positional digits point else scientific digits (point - 1)

/-- A floating-point number in the fewest digits that read back. -/
def floatText (x : Float) : List Char :=
  match Binary.ofFloat x with
  | .notANumber => ['n', 'a', 'n']
  | .infinite negative => (if negative then ['-'] else []) ++ ['i', 'n', 'f']
  | .finite negative mantissa exponent =>
    (if negative then ['-'] else []) ++
      if mantissa = 0 then ['0', '.', '0'] else (shortest mantissa exponent).render

/-! ## Fifteen digits

Numbers with at most fifteen significant digits and always a point, as a column of texts keeps a
number: positional between `1e-4` and `1e15`, with an exponent outside.
-/

def significantDigits : Nat := 15

/-- A positive fraction rounded to the digits that are kept, and the place of the point in them. -/
def significant (num den : Nat) : Nat × Int :=
  let place := magnitude num den
  let (top, bottom) := inUnitsOf (place - significantDigits) num den
  let rounded := divToEven top bottom
  if rounded = Nat.pow 10 significantDigits then (rounded / 10, place + 1) else (rounded, place)

def dropFinalZeros (digits : List Char) : List Char :=
  (digits.reverse.dropWhile (· = '0')).reverse

def fractionText (digits : List Char) : List Char :=
  match dropFinalZeros digits with
  | [] => ['.', '0']
  | kept => '.' :: kept

def signedExponent (exponent : Int) : List Char :=
  let digits := digitsOf exponent.natAbs
  'e' :: (if exponent < 0 then '-' else '+') ::
    (if digits.length < 2 then '0' :: digits else digits)

def placed (digits : List Char) (place : Int) : List Char :=
  if 0 < place && place ≤ significantDigits then
    digits.take place.toNat ++ fractionText (digits.drop place.toNat)
  else if -4 < place && place ≤ 0 then
    '0' :: fractionText (List.replicate (-place).toNat '0' ++ digits)
  else digits.take 1 ++ fractionText (digits.drop 1) ++ signedExponent (place - 1)

def columnText (x : Float) : String :=
  match Binary.ofFloat x with
  | .finite negative mantissa exponent =>
    if mantissa = 0 then "0.0"
    else
      let (num, den) := scaleTwo mantissa exponent
      let (digits, place) := significant num den
      String.ofList ((if negative then ['-'] else []) ++ placed (digitsOf digits) place)
  | .infinite negative => if negative then "-Inf" else "Inf"
  | .notANumber => ""

end Parley.Number
