import Parley.Gateway.Guard

/-!
A gateway that keeps what it delivers, and that can be told to fail.
-/

namespace Parley

structure Faults where
  kinds : List String := []
  bots : List String := []
  /-- Whether a failing message is declined for good. -/
  rejected : Bool := false
  latency : Rat := 0
  deriving DecidableEq, Repr

namespace Faults

def applies (bot : Bot) (outbound : Outbound) (faults : Faults) : Bool :=
  outbound.kind ∈ faults.kinds || bot.id ∈ faults.bots

def refusal? (bot : Bot) (outbound : Outbound) (faults : Faults) : Option Refusal :=
  if !faults.applies bot outbound then none
  else if faults.rejected then some (.declined (outbound.kind ++ " rejected") false none)
  else some (.broke (outbound.kind ++ " delivery refused"))

end Faults

structure Recording where
  faults : Faults := {}
  delivered : List (Outbound × String) := []

namespace Recording

def carry : Carrier Recording := fun bot recipientId outbound recording =>
  let seconds := recording.faults.latency
  match recording.faults.refusal? bot outbound with
  | some refusal => { refusal := some refusal, seconds, medium := recording }
  | none =>
    { seconds
      medium := { recording with delivered := recording.delivered ++ [(outbound, recipientId)] } }

end Recording

end Parley
