/-!
The exact value of a floating-point number.
-/

namespace Parley.Number

/-- What a floating-point number stands for: `± mantissa * 2 ^ exponent`, an infinity, or nothing. -/
inductive Binary where
  | finite (negative : Bool) (mantissa : Nat) (exponent : Int)
  | infinite (negative : Bool)
  | notANumber
  deriving DecidableEq, Repr

def minExponent : Int := -1074

/-- The mantissa at which the gap below a number is half the gap above it. -/
def leastNormal : Nat := Nat.pow 2 52

def Binary.ofFloat (x : Float) : Binary :=
  let bits : Nat := x.toBits.toNat
  let negative := bits / Nat.pow 2 63 == 1
  let biased : Nat := bits / Nat.pow 2 52 % Nat.pow 2 11
  let fraction : Nat := bits % Nat.pow 2 52
  if biased = 2047 then
    if fraction = 0 then .infinite negative else .notANumber
  else if biased = 0 then .finite negative fraction minExponent
  else .finite negative (leastNormal + fraction) ((biased : Int) - 1075)

def scaleTwo (mantissa : Nat) (exponent : Int) : Nat × Nat :=
  if 0 ≤ exponent then (mantissa * Nat.pow 2 exponent.toNat, 1) else (mantissa, Nat.pow 2 (-exponent).toNat)

def Binary.toRat? : Binary → Option Rat
  | .finite negative mantissa exponent =>
    let (num, den) := scaleTwo mantissa exponent
    let size := (num : Rat) / (den : Rat)
    some (if negative then -size else size)
  | _ => none

def isFinite (x : Float) : Bool :=
  match Binary.ofFloat x with
  | .finite .. => true
  | _ => false

/-- The exact value of a number, zero for an infinity or no number. -/
def exact (x : Float) : Rat := (Binary.ofFloat x).toRat?.getD 0

def ofRat (q : Rat) : Float := Float.ofInt q.num / Float.ofNat q.den

/-- The largest magnitude exponent a reader looks at before it answers zero or infinity. -/
def exponentLimit : Int := 400

def infinity : Float := 1.0 / 0.0

def ofDecimal (negative : Bool) (mantissa : Nat) (exponent : Int) : Float :=
  let digits := (Nat.log2 mantissa : Int) * 3 / 10
  let size : Float :=
    if mantissa = 0 then 0
    else if digits + exponent > exponentLimit then infinity
    else if digits + exponent < -exponentLimit then 0
    else if 0 ≤ exponent then Float.ofScientific mantissa false exponent.toNat
    else Float.ofScientific mantissa true (-exponent).toNat
  if negative then -size else size

end Parley.Number
