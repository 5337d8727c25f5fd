import Parley.Engine.Budget
import Parley.Engine.GraphStep

/-!
The plan of a turn: all that it will send and wait for, in order, and how it ends. Authored content
and the variables decide it; whether a message is delivered plays no part.
-/

namespace Parley

inductive Ending where
  | parked (cursor : Cursor)
  | finished
  | failed (failure : Failure)
  deriving DecidableEq, Repr

structure Plan where
  effects : List Effect := []
  ending : Ending
  deriving DecidableEq, Repr

namespace Plan

def after (effects : List Effect) (plan : Plan) : Plan :=
  { plan with effects := effects ++ plan.effects }

def failed (failure : Failure) : Plan := { ending := .failed failure }

def step (find : FindBlock) (context : Context) : Cursor → Except Failure Step
  | .card block index => block.step find context index
  | .node flow node => .ok (flow.step context node)

/-- Runs step after step until the turn parks, finishes, fails or has used up its budget. -/
def run (find : FindBlock) (context : Context) (budget : Budget) (start : Transition) : Plan :=
  match start with
  | .done => { ending := .finished }
  | .await cursor _ => { effects := start.prompt, ending := .parked cursor }
  | .goto cursor =>
    match h : budget.charge cursor.entered with
    | .error failure => failed failure
    | .ok paid =>
      match step find context cursor with
      | .error failure => failed failure
      | .ok taken =>
        have := Budget.remaining_lt_of_charge h
        (run find context paid taken.next).after taken.effects
termination_by budget.remaining

end Plan

end Parley
