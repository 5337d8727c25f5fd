import Parley.Failure

/-!
The budget of a turn: how many cards and nodes it may still run, and which blocks it has entered.
Entering a block twice means that jumps lead in a circle.
-/

namespace Parley

structure Budget where
  /-- The number of steps that are allowed; of a limit with a fraction, the whole steps in it. -/
  limit : Int := 100
  limitText : String := toString limit
  steps : Nat := 0
  /-- The blocks entered so far, the last one first. -/
  visited : List String := []
  deriving DecidableEq, Repr

namespace Budget

/-- Counts a step, also one that is not allowed any more. -/
def tick (budget : Budget) : Budget := { budget with steps := budget.steps + 1 }

def overrun? (budget : Budget) : Option Failure :=
  if budget.limit < budget.steps then some (.outOfSteps budget.limitText budget.steps) else none

def enter (blockId : String) (budget : Budget) : Except Failure Budget :=
  if blockId ∈ budget.visited then .error (.blockRepeated blockId budget.steps)
  else .ok { budget with visited := blockId :: budget.visited }

def remaining (budget : Budget) : Nat := (budget.limit - budget.steps).toNat

/-- Pays for one step, which enters a block if it runs its first card. -/
def charge (entered : Option String) (budget : Budget) : Except Failure Budget :=
  match budget.tick.overrun?, entered with
  | some failure, _ => .error failure
  | none, some blockId => budget.tick.enter blockId
  | none, none => .ok budget.tick

theorem overrun?_eq_none {budget : Budget} :
    budget.overrun? = none ↔ (budget.steps : Int) ≤ budget.limit := by
  simp [overrun?]

theorem enter_ok {blockId : String} {budget entered : Budget}
    (h : budget.enter blockId = .ok entered) :
    blockId ∉ budget.visited ∧ entered = { budget with visited := blockId :: budget.visited } := by
  unfold enter at h
  split at h
  · cases h
  · rename_i fresh
    exact ⟨fresh, by cases h; rfl⟩

theorem charge_steps {entered : Option String} {budget paid : Budget}
    (h : budget.charge entered = .ok paid) :
    paid.limit = budget.limit ∧ paid.steps = budget.steps + 1 ∧
      ((budget.steps + 1 : Nat) : Int) ≤ budget.limit := by
  unfold charge at h
  split at h
  · cases h
  · rename_i within
    obtain ⟨_, rfl⟩ := enter_ok h
    exact ⟨rfl, rfl, overrun?_eq_none.1 within⟩
  · rename_i within
    cases h
    exact ⟨rfl, rfl, overrun?_eq_none.1 within⟩

theorem remaining_lt_of_charge {entered : Option String} {budget paid : Budget}
    (h : budget.charge entered = .ok paid) : paid.remaining < budget.remaining := by
  obtain ⟨limit, steps, within⟩ := charge_steps h
  simp only [remaining, limit, steps]
  omega

end Budget

end Parley
