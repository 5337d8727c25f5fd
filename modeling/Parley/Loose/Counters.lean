import Parley.Engine.Budget
import Parley.Gateway.Guard
import Parley.Json.Display
import Parley.Loose.Argument

/-!
Budgets, breakers and metrics set up and driven with loose arguments. A limit that is no number is
noticed when something is compared with it.
-/

namespace Parley.Loose

open Number

/-! ### Budgets -/

def budget (limit : Json) : Answer Budget := do
  return { limit := (← asNumber limit).floor, limitText := limit.display }

/-- What is left of a limit, as a number of the same kind; nothing left is a whole zero. -/
def remaining (limit : Json) (steps : Nat) : Json :=
  match limit with
  | .float x => if x < Float.ofNat steps then .int 0 else .float (x - Float.ofNat steps)
  | limit => .int (max (limit.cut.toOption.getD 0 - steps) 0)

/-! ### Breakers -/

/-- The limits of a breaker; nothing stands for one that is no number. -/
structure Limits where
  threshold : Option Rat := some 5
  recovery : Option Rat := some 60
  deriving DecidableEq, Repr

namespace Limits

def read (given : Json) : Answer Limits := do
  only ["failure_threshold", "recovery_timeout"] given
  let fresh : Limits := {}
  return {
    threshold := ((given.get? "failure_threshold").map number?).getD fresh.threshold
    recovery := ((given.get? "recovery_timeout").map number?).getD fresh.recovery }

/-- A breaker within the limits; one without a threshold does not open by itself. -/
def breaker (limits : Limits) : Breaker :=
  { threshold := limits.threshold.getD (Nat.pow 10 400 : Nat)
    recovery := limits.recovery.getD 0
    precision := .binary }

end Limits

def fail (limits : Limits) (now : Rat) (breaker : Breaker) : Answer Breaker := do
  if limits.threshold.isNone then throw .mistyped
  return breaker.fail now

def checkRecovery (limits : Limits) (breaker : Breaker) : Answer Unit :=
  if limits.recovery.isNone && breaker.openedAt.isSome then .error .mistyped else .ok ()

def drive (limits : Limits) (call : Json) (state : Rat × Breaker) : Answer (Rat × Breaker) := do
  let (now, breaker) := state
  let state ← match call with
    | .str "fail" => do pure (now, ← fail limits now breaker)
    | .str "ok" => pure (now, breaker.succeed now)
    | .str "reset" => pure (now, breaker.close)
    | seconds => do pure (breaker.precision.add now (← asNumber seconds), breaker)
  checkRecovery limits state.2
  return state

/-! ### Metrics -/

def metrics (window : Json) : Answer Metrics :=
  match window with
  | .null => .ok { window := none }
  | window => do
    let size ← asWhole window
    if size < 0 then throw (.meaningless "maxlen must be non-negative")
    return { window := some size.toNat }

def asReal : Json → Answer Float
  | .bool value => .ok (if value then 1 else 0)
  | .int n => .ok (Json.int n).real
  | .float x => .ok x
  | _ => .error .mistyped

def count (call : Json) (metrics : Metrics) : Answer Metrics :=
  match call with
  | .arr [.str "send"] => .ok (metrics.succeed 0)
  | .arr [.str "send", millis] => do return metrics.succeed (← asReal millis)
  | .arr [.str "fail"] => .ok (metrics.fail .null)
  | .arr [.str "fail", error] => .ok (metrics.fail error)
  | _ => .error .mistyped

end Parley.Loose
