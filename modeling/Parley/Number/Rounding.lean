import Parley.Number.Binary

/-!
Rounding to a fixed number of decimal places or of binary digits, from the exact value; a half goes to
the even neighbour.
-/

namespace Parley.Number

/-- The integer nearest to `num / den`, the even one of two. -/
def divToEven (num den : Nat) : Nat :=
  let below := num / den
  let rest := 2 * (num % den)
  if den < rest || (rest = den && below % 2 = 1) then below + 1 else below

def roundPlaces (x : Float) (places : Nat) : Float :=
  match Binary.ofFloat x with
  | .finite negative mantissa exponent =>
    let (num, den) := scaleTwo mantissa exponent
    ofDecimal negative (divToEven (num * Nat.pow 10 places) den) (-(places : Int))
  | _ => x

def roundRat (q : Rat) : Int :=
  if q.num < 0 then -(divToEven q.num.natAbs q.den : Int) else divToEven q.num.natAbs q.den

/-! ## Binary digits

How many digits the numbers of a clock have. Laws about times are stated for exact numbers; a clock
that runs keeps 53 binary digits of every sum and difference.
-/

def significantBits : Nat := 53

/-- The exponent of the last binary digit that is kept of `num / den`. -/
def lastBit (num den : Nat) : Int :=
  let guess : Int := (Nat.log2 num : Int) - Nat.log2 den
  let (above, below) := scaleTwo den guess
  let leading := if num * below < above then guess - 1 else guess
  max (leading - (significantBits - 1)) minExponent

/-- The nearest number to a fraction of those with 53 binary digits, the even one of two. -/
def roundBinary (q : Rat) : Rat :=
  let bit := lastBit q.num.natAbs q.den
  let (scale, shrink) := scaleTwo 1 bit
  let size : Nat := divToEven (q.num.natAbs * shrink) (q.den * scale)
  let value : Rat := (size : Rat) * scale / shrink
  if q.num < 0 then -value else value

inductive Precision where
  | exact
  | binary
  deriving DecidableEq, Repr

namespace Precision

def round (precision : Precision) (q : Rat) : Rat :=
  match precision with
  | .exact => q
  | .binary => roundBinary q

def add (precision : Precision) (a b : Rat) : Rat := precision.round (a + b)

def sub (precision : Precision) (a b : Rat) : Rat := precision.round (a - b)

def mul (precision : Precision) (a b : Rat) : Rat := precision.round (a * b)

@[simp] theorem exact_add (a b : Rat) : exact.add a b = a + b := rfl

@[simp] theorem exact_sub (a b : Rat) : exact.sub a b = a - b := rfl

@[simp] theorem exact_mul (a b : Rat) : exact.mul a b = a * b := rfl

end Precision

end Parley.Number
