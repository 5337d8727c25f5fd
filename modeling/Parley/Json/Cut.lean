import Parley.Json.Basic
import Parley.Number.Numeral
import Parley.Text.Quoted

/-!
Written values cut to whole numbers: what stands behind the point of a number is dropped, and a text
is read as a whole number.
-/

namespace Parley

open Number

inductive CutFault where
  | notNumber
  | unreadable (text : String)
  | tooManyDigits (digits : Nat)
  | notANumber
  | infinite
  deriving DecidableEq, Repr

namespace CutFault

def shownLength : Nat := 200

def message : CutFault → String
  | .notNumber => "not a number"
  | .unreadable text =>
    "invalid literal for int() with base 10: " ++
      String.ofList ((Text.quoted text.toList).take shownLength)
  | .tooManyDigits digits =>
    s!"Exceeds the limit ({digitLimit} digits) for integer string conversion: " ++
      s!"value has {digits} digits; use sys.set_int_max_str_digits() to increase the limit"
  | .notANumber => "cannot convert float NaN to integer"
  | .infinite => "cannot convert float infinity to integer"

end CutFault

def Json.cut : Json → Except CutFault Int
  | .bool value => .ok (if value then 1 else 0)
  | .int n => .ok n
  | .float x =>
    match Binary.ofFloat x with
    | .finite .. => .ok (Int.tdiv (exact x).num (exact x).den)
    | .infinite _ => .error .infinite
    | .notANumber => .error .notANumber
  | .str text =>
    match settingInt text with
    | .number n => .ok n
    | .tooLong digits => .error (.tooManyDigits digits)
    | .unreadable => .error (.unreadable text)
  | _ => .error .notNumber

end Parley
