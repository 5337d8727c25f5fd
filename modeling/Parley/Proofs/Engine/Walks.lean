import Parley.Engine.Plan

/-!
Walks: steps that are taken one after the other, without a budget. A plan follows a walk for as long
as its budget pays, so a walk that goes on for ever ends every plan at a limit.
-/

namespace Parley

/-- It says that a turn has used up its budget, or has entered a block twice. -/
def Failure.isLimit : Failure → Bool
  | .outOfSteps .. => true
  | .blockRepeated .. => true
  | _ => false

structure Taken where
  place : Cursor
  step : Step

def entries (trail : List Taken) : List String := trail.filterMap (·.place.entered)

def trailEffects (trail : List Taken) : List Effect := trail.flatMap (·.step.effects)

inductive Walk (find : FindBlock) (context : Context) :
    Transition → List Taken → Transition → Prop where
  | rest (start : Transition) : Walk find context start [] start
  | step {place : Cursor} {taken : Step} {trail : List Taken} {last : Transition}
    (stepped : Plan.step find context place = .ok taken)
    (onward : Walk find context taken.next trail last) :
    Walk find context (.goto place) (⟨place, taken⟩ :: trail) last

def Transition.Stops : Transition → Prop
  | .goto _ => False
  | _ => True

/-- A walk goes on for ever: after any number of steps there is a next place. -/
def Endless (find : FindBlock) (context : Context) (start : Transition) : Prop :=
  ∀ count, ∃ trail place, trail.length = count ∧ Walk find context start trail (.goto place)

namespace Walk

variable {find : FindBlock} {context : Context} {start middle last last' : Transition}
  {trail trail' : List Taken}

theorem append (first : Walk find context start trail middle)
    (second : Walk find context middle trail' last) :
    Walk find context start (trail ++ trail') last := by
  induction first with
  | rest => exact second
  | step stepped _ ih => exact .step stepped (ih second)

theorem take (walk : Walk find context start trail last) {count : Nat} (short : count ≤ trail.length) :
    ∃ middle, Walk find context start (trail.take count) middle ∧
      Walk find context middle (trail.drop count) last := by
  induction walk generalizing count with
  | rest start =>
    rw [List.take_nil, List.drop_nil]
    exact ⟨start, .rest start, .rest start⟩
  | @step place taken trail last stepped onward ih =>
    cases count with
    | zero => exact ⟨_, .rest _, .step stepped onward⟩
    | succ count =>
      obtain ⟨middle, before, after⟩ := ih (Nat.le_of_succ_le_succ short)
      exact ⟨middle, .step stepped before, after⟩

theorem agree (walk : Walk find context start trail last)
    (other : Walk find context start trail' last') (short : trail.length ≤ trail'.length) :
    ∃ rest, trail' = trail ++ rest ∧ Walk find context last rest last' := by
  induction walk generalizing trail' with
  | rest start => exact ⟨trail', rfl, other⟩
  | step stepped _ ih =>
    cases other with
    | rest => simp at short
    | step stepped' onward' =>
      cases stepped.symm.trans stepped'
      obtain ⟨rest, same, more⟩ := ih onward' (by simpa using short)
      exact ⟨rest, by rw [same, List.cons_append], more⟩

/-- No walk is longer than one that has stopped. -/
theorem length_le_of_stops (walk : Walk find context start trail last) (stops : last.Stops)
    (other : Walk find context start trail' last') : trail'.length ≤ trail.length := by
  apply Nat.le_of_not_lt
  intro longer
  obtain ⟨rest, same, more⟩ := walk.agree other (Nat.le_of_lt longer)
  cases more with
  | rest => simp [same] at longer
  | step => exact stops

theorem not_endless_of_stops (walk : Walk find context start trail last) (stops : last.Stops) :
    ¬ Endless find context start := by
  intro endless
  obtain ⟨longer, place, length, other⟩ := endless (trail.length + 1)
  have short := walk.length_le_of_stops stops other
  omega

theorem leads_from {place : Cursor} (walk : Walk find context start trail (.goto place)) :
    ∃ first, start = .goto first := by
  cases walk with
  | rest => exact ⟨place, rfl⟩
  | step => exact ⟨_, rfl⟩

theorem endless_of_longer
    (longer : ∀ count, ∃ trail place, count ≤ trail.length ∧ Walk find context start trail (.goto place)) :
    Endless find context start := by
  intro count
  obtain ⟨trail, place, long, walk⟩ := longer count
  obtain ⟨middle, before, after⟩ := walk.take long
  obtain ⟨there, rfl⟩ := after.leads_from
  exact ⟨trail.take count, there, List.length_take_of_le long, before⟩

/-- A walk that comes back to where it has been goes round for ever. -/
theorem endless_of_loop {place : Cursor} (round : Walk find context (.goto place) trail (.goto place))
    (moves : 0 < trail.length) : Endless find context (.goto place) := by
  apply endless_of_longer
  intro count
  induction count with
  | zero => exact ⟨[], place, Nat.le_refl 0, .rest _⟩
  | succ count ih =>
    obtain ⟨before, there, long, walk⟩ := ih
    refine ⟨trail ++ before, there, ?_, round.append walk⟩
    rw [List.length_append]
    omega

theorem endless_of_endless (walk : Walk find context start trail middle)
    (onward : Endless find context middle) : Endless find context start := by
  apply endless_of_longer
  intro count
  obtain ⟨more, place, length, rest⟩ := onward count
  refine ⟨trail ++ more, place, ?_, walk.append rest⟩
  rw [List.length_append]
  omega

end Walk

/-! ### Paying for steps -/

namespace Budget

theorem charge_ok {entered : Option String} {budget paid : Budget}
    (charged : budget.charge entered = .ok paid) :
    ((budget.steps + 1 : Nat) : Int) ≤ budget.limit ∧ (∀ blockId ∈ entered, blockId ∉ budget.visited) ∧
      paid = { budget with steps := budget.steps + 1, visited := entered.toList ++ budget.visited } := by
  have within := (charge_steps charged).2.2
  unfold charge at charged
  split at charged
  · cases charged
  · obtain ⟨fresh, rfl⟩ := enter_ok charged
    refine ⟨within, ?_, rfl⟩
    intro _ same
    cases same
    exact fresh
  · cases charged
    refine ⟨within, ?_, rfl⟩
    intro _ none
    cases none

theorem charge_error {entered : Option String} {budget : Budget} {failure : Failure}
    (refused : budget.charge entered = .error failure) :
    (budget.limit < (budget.steps + 1 : Nat) ∧
        failure = .outOfSteps budget.limitText (budget.steps + 1)) ∨
      ∃ blockId, entered = some blockId ∧ blockId ∈ budget.visited ∧
        failure = .blockRepeated blockId (budget.steps + 1) := by
  unfold charge at refused
  split at refused
  · rename_i reason overrun
    cases refused
    unfold overrun? at overrun
    split at overrun
    · rename_i beyond
      cases overrun
      exact Or.inl ⟨beyond, rfl⟩
    · cases overrun
  · rename_i blockId _
    unfold enter at refused
    split at refused
    · rename_i again
      cases refused
      exact Or.inr ⟨blockId, rfl, again, rfl⟩
    · cases refused
  · cases refused

theorem charge_error_isLimit {entered : Option String} {budget : Budget} {failure : Failure}
    (refused : budget.charge entered = .error failure) : failure.isLimit = true := by
  rcases charge_error refused with ⟨_, rfl⟩ | ⟨_, _, _, rfl⟩ <;> rfl

end Budget

/-- A walk whose steps a budget pays for, one by one, and what is left of the budget. -/
inductive Spends (find : FindBlock) (context : Context) :
    Budget → Transition → List Taken → Budget → Transition → Prop where
  | rest (budget : Budget) (start : Transition) : Spends find context budget start [] budget start
  | step {budget paid left : Budget} {place : Cursor} {taken : Step} {trail : List Taken}
    {last : Transition} (charged : budget.charge place.entered = .ok paid)
    (stepped : Plan.step find context place = .ok taken)
    (onward : Spends find context paid taken.next trail left last) :
    Spends find context budget (.goto place) (⟨place, taken⟩ :: trail) left last

namespace Spends

variable {find : FindBlock} {context : Context} {budget left : Budget} {start last : Transition}
  {trail : List Taken}

theorem walk (spends : Spends find context budget start trail left last) :
    Walk find context start trail last := by
  induction spends with
  | rest => exact .rest _
  | step _ stepped _ ih => exact .step stepped ih

theorem left_eq (spends : Spends find context budget start trail left last) :
    left = { budget with steps := budget.steps + trail.length
                         visited := (entries trail).reverse ++ budget.visited } := by
  induction spends with
  | rest => rfl
  | @step budget paid left place taken trail last charged _ _ ih =>
    obtain ⟨_, _, rfl⟩ := Budget.charge_ok charged
    rw [ih]
    have counted : budget.steps + 1 + trail.length = budget.steps + (trail.length + 1) := by omega
    cases enters : place.entered <;>
      simp [entries, enters, counted]

theorem length_le (spends : Spends find context budget start trail left last) :
    trail.length ≤ budget.remaining := by
  induction spends with
  | rest => exact Nat.zero_le _
  | step charged _ _ ih => exact Nat.lt_of_le_of_lt ih (Budget.remaining_lt_of_charge charged)

theorem refused {place : Cursor} {failure : Failure}
    (spends : Spends find context budget start trail left (.goto place))
    (refused : left.charge place.entered = .error failure) :
    (budget.remaining ≤ trail.length ∧
        failure = .outOfSteps budget.limitText (budget.steps + trail.length + 1)) ∨
      ∃ blockId, place.entered = some blockId ∧
        (blockId ∈ entries trail ∨ blockId ∈ budget.visited) ∧
        failure = .blockRepeated blockId (budget.steps + trail.length + 1) := by
  have refusal := Budget.charge_error refused
  rw [spends.left_eq] at refusal
  rcases refusal with ⟨beyond, out⟩ | ⟨blockId, enters, seen, repeated⟩
  · refine Or.inl ⟨?_, out⟩
    unfold Budget.remaining
    dsimp only at beyond
    omega
  · refine Or.inr ⟨blockId, enters, ?_, repeated⟩
    simpa using seen

end Spends

/-! ### Plans -/

/-- What a plan comes to where a walk can go no further, be it over, unpaid or stuck. -/
inductive Transition.EndsIn (find : FindBlock) (context : Context) (left : Budget) :
    Transition → Ending → Prop where
  | finished : EndsIn find context left .done .finished
  | parked (cursor : Cursor) (prompt : Option String) :
    EndsIn find context left (.await cursor prompt) (.parked cursor)
  | unpaid {place : Cursor} {failure : Failure} (refused : left.charge place.entered = .error failure) :
    EndsIn find context left (.goto place) (.failed failure)
  | stuck {place : Cursor} {failure : Failure}
    (failed : Plan.step find context place = .error failure) :
    EndsIn find context left (.goto place) (.failed failure)

theorem Transition.EndsIn.goto_failed {find : FindBlock} {context : Context} {left : Budget}
    {place : Cursor} {ending : Ending}
    (ends : (Transition.goto place).EndsIn find context left ending) :
    ∃ failure, ending = .failed failure ∧
      (left.charge place.entered = .error failure ∨
        Plan.step find context place = .error failure) := by
  cases ends with
  | unpaid refused => exact ⟨_, rfl, Or.inl refused⟩
  | stuck failed => exact ⟨_, rfl, Or.inr failed⟩

structure Plan.Follows (find : FindBlock) (context : Context) (budget : Budget) (start : Transition)
    (plan : Plan) (trail : List Taken) (left : Budget) (last : Transition) : Prop where
  spends : Spends find context budget start trail left last
  effects : plan.effects = trailEffects trail ++ last.prompt
  ends : last.EndsIn find context left plan.ending

theorem Plan.run_follows (find : FindBlock) (context : Context) (budget : Budget)
    (start : Transition) :
    ∃ trail left last,
      Plan.Follows find context budget start (Plan.run find context budget start) trail left last := by
  fun_induction Plan.run find context budget start with
  | case1 budget => exact ⟨[], budget, .done, .rest _ _, rfl, .finished⟩
  | case2 budget cursor prompt =>
    exact ⟨[], budget, .await cursor prompt, .rest _ _, rfl, .parked cursor prompt⟩
  | case3 budget place failure refused =>
    exact ⟨[], budget, .goto place, .rest _ _, rfl, .unpaid refused⟩
  | case4 budget place paid charged failure failed =>
    exact ⟨[], budget, .goto place, .rest _ _, rfl, .stuck failed⟩
  | case5 budget place paid charged taken stepped less ih =>
    obtain ⟨trail, left, last, follows⟩ := ih
    refine ⟨⟨place, taken⟩ :: trail, left, last, .step charged stepped follows.spends, ?_,
      follows.ends⟩
    rw [Plan.after, follows.effects]
    simp [trailEffects]

/-- A plan that is out of its limits, and says so. -/
def Plan.Limited (plan : Plan) : Prop := ∃ failure, plan.ending = .failed failure ∧ failure.isLimit

/-- If no step on the way can fail, a walk that goes on for ever drives every plan to a limit. -/
theorem Plan.limited_of_endless {find : FindBlock} {context : Context} {budget : Budget}
    {start : Transition}
    (able : ∀ trail place, Walk find context start trail (.goto place) →
      ∃ taken, Plan.step find context place = .ok taken)
    (endless : Endless find context start) : (Plan.run find context budget start).Limited := by
  obtain ⟨trail, left, last, follows⟩ := Plan.run_follows find context budget start
  have walk := follows.spends.walk
  have ends := follows.ends
  cases last with
  | done => exact absurd endless (walk.not_endless_of_stops trivial)
  | await cursor prompt => exact absurd endless (walk.not_endless_of_stops trivial)
  | goto place =>
    obtain ⟨failure, ending, refused | failed⟩ := ends.goto_failed
    · exact ⟨failure, ending, Budget.charge_error_isLimit refused⟩
    · obtain ⟨taken, stepped⟩ := able trail place walk
      cases stepped.symm.trans failed

/-- A walk that enters no block twice and stops is gone to its end if the steps suffice for it. -/
theorem Walk.limited_iff {find : FindBlock} {context : Context} {start last : Transition}
    {trail : List Taken} (walk : Walk find context start trail last) (stops : last.Stops)
    (once : (entries trail).Nodup) {budget : Budget} (fresh : budget.visited = []) :
    (Plan.run find context budget start).Limited ↔ budget.remaining < trail.length := by
  obtain ⟨trail', left, last', follows⟩ := Plan.run_follows find context budget start
  have spends := follows.spends
  have shorter := walk.length_le_of_stops stops spends.walk
  obtain ⟨rest, same, onward⟩ := spends.walk.agree walk shorter
  have ends := follows.ends
  have within := spends.length_le
  cases onward with
  | rest =>
    -- the plan has gone the whole walk
    rw [List.append_nil] at same
    subst same
    constructor
    · rintro ⟨failure, failed, _⟩
      rw [failed] at ends
      cases ends <;> exact stops.elim
    · intro short
      omega
  | @step place taken rest last stepped onward =>
    -- the plan was refused a step of the walk
    obtain ⟨failure, failed, refused | stuck⟩ := ends.goto_failed
    · have limited : (Plan.run find context budget start).Limited :=
        ⟨failure, failed, Budget.charge_error_isLimit refused⟩
      refine ⟨fun _ => ?_, fun _ => limited⟩
      rcases spends.refused refused with ⟨spent, _⟩ | ⟨blockId, enters, seen, _⟩
      · rw [same, List.length_append, List.length_cons]
        omega
      · rw [fresh] at seen
        have seen : blockId ∈ entries trail' := by simpa using seen
        rw [same] at once
        simp only [entries, List.filterMap_append, List.filterMap_cons, enters] at once seen
        have apart := (List.nodup_append.mp once).2.2 blockId seen blockId List.mem_cons_self
        exact absurd rfl apart
    · cases stepped.symm.trans stuck

end Parley
