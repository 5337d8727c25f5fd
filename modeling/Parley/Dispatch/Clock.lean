import Parley.Number.Rounding

/-!
The clock of those who wait. It stands still while anybody is awake, and then jumps to the time at
which the next one wakes.
-/

namespace Parley

open Number

structure Clock where
  now : Rat := 0
  precision : Precision := .exact
  /-- How exactly alarms are kept: one that is due so soon goes off already. -/
  resolution : Rat := 1 / 1000000000
  deriving DecidableEq, Repr

namespace Clock

def due (seconds : Rat) (clock : Clock) : Rat := clock.precision.add clock.now seconds

def horizon (clock : Clock) : Rat :=
  clock.precision.add clock.now (clock.precision.round clock.resolution)

def isDue (due : Rat) (clock : Clock) : Bool := due ≤ clock.now || due < clock.horizon

def passTo (due : Rat) (clock : Clock) : Clock :=
  if clock.isDue due then clock else { clock with now := due }

def pass (seconds : Rat) (clock : Clock) : Clock :=
  if seconds ≤ 0 then clock else clock.passTo (clock.due seconds)

end Clock

end Parley
