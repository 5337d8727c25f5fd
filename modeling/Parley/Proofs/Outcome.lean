import Mathlib.Order.Defs.Unbundled
import Parley.Store.Storage

/-!
Actions on a state that may fail: how they turn out, which states they lead to, and what they cannot
tell apart. An action that fails keeps what it has done so far.
-/

namespace Parley

variable {ε σ α β : Type}

/-- What an action answers, and the state that it leaves. -/
def outcome (action : ExceptT ε (StateM σ) α) (state : σ) : Except ε α × σ := action.run.run state

@[simp] theorem outcome_pure (value : α) (state : σ) :
    outcome (pure value : ExceptT ε (StateM σ) α) state = (.ok value, state) := rfl

@[simp] theorem outcome_throw (failure : ε) (state : σ) :
    outcome (throw failure : ExceptT ε (StateM σ) α) state = (.error failure, state) := rfl

theorem outcome_bind (action : ExceptT ε (StateM σ) α) (next : α → ExceptT ε (StateM σ) β)
    (state : σ) :
    outcome (action >>= next) state =
      match outcome action state with
      | (.ok value, reached) => outcome (next value) reached
      | (.error failure, reached) => (.error failure, reached) := by
  simp only [outcome, ExceptT.run_bind, StateT.run_bind]
  rcases action.run.run state with ⟨answer, reached⟩
  cases answer <;> rfl

theorem outcome_get_bind (next : σ → ExceptT ε (StateM σ) α) (state : σ) :
    outcome (get >>= next) state = outcome (next state) state := rfl

theorem outcome_bind_of_ok {action : ExceptT ε (StateM σ) α} {state reached : σ} {value : α}
    (h : outcome action state = (.ok value, reached)) (next : α → ExceptT ε (StateM σ) β) :
    outcome (action >>= next) state = outcome (next value) reached := by
  rw [outcome_bind, h]

theorem outcome_bind_of_error {action : ExceptT ε (StateM σ) α} {state reached : σ} {failure : ε}
    (h : outcome action state = (.error failure, reached)) (next : α → ExceptT ε (StateM σ) β) :
    outcome (action >>= next) state = (.error failure, reached) := by
  rw [outcome_bind, h]

theorem outcome_bind_ok {action : ExceptT ε (StateM σ) α} {next : α → ExceptT ε (StateM σ) β}
    {state final : σ} {result : β} (h : outcome (action >>= next) state = (.ok result, final)) :
    ∃ value reached, outcome action state = (.ok value, reached) ∧
      outcome (next value) reached = (.ok result, final) := by
  rw [outcome_bind] at h
  split at h
  · rename_i value reached first
    exact ⟨value, reached, first, h⟩
  · cases h

theorem outcome_bind_error {action : ExceptT ε (StateM σ) α} {next : α → ExceptT ε (StateM σ) β}
    {state final : σ} {failure : ε} (h : outcome (action >>= next) state = (.error failure, final)) :
    outcome action state = (.error failure, final) ∨
      ∃ value reached, outcome action state = (.ok value, reached) ∧
        outcome (next value) reached = (.error failure, final) := by
  rw [outcome_bind] at h
  split at h
  · rename_i value reached first
    exact Or.inr ⟨value, reached, first, h⟩
  · rename_i first
    cases h
    exact Or.inl first

theorem outcome_tryCatch (action : ExceptT ε (StateM σ) α) (rescue : ε → ExceptT ε (StateM σ) α)
    (state : σ) :
    outcome (tryCatch action rescue) state =
      match outcome action state with
      | (.ok value, reached) => (.ok value, reached)
      | (.error failure, reached) => outcome (rescue failure) reached := by
  change outcome (match (outcome action state).1 with
    | .ok value => pure value
    | .error failure => rescue failure) (outcome action state).2 = _
  rcases outcome action state with ⟨answer, reached⟩
  cases answer <;> rfl

/-! ### Where actions lead -/

/-- An action leads from every state to a related one, also when it fails. -/
def Within (R : σ → σ → Prop) (action : ExceptT ε (StateM σ) α) : Prop :=
  ∀ state, R state (outcome action state).2

namespace Within

variable {R : σ → σ → Prop}

theorem apply {action : ExceptT ε (StateM σ) α} (h : Within R action) {state reached : σ}
    {answer : Except ε α} (run : outcome action state = (answer, reached)) : R state reached := by
  have related := h state
  rwa [run] at related

theorem mono {S : σ → σ → Prop} {action : ExceptT ε (StateM σ) α} (h : Within R action)
    (weaker : ∀ state reached, R state reached → S state reached) : Within S action :=
  fun state => weaker _ _ (h state)

theorem pure [Std.Refl R] (value : α) : Within R (Pure.pure value : ExceptT ε (StateM σ) α) :=
  fun state => Std.Refl.refl state

theorem throw [Std.Refl R] (failure : ε) :
    Within R (MonadExcept.throw failure : ExceptT ε (StateM σ) α) :=
  fun state => Std.Refl.refl state

theorem get [Std.Refl R] : Within R (MonadState.get : ExceptT ε (StateM σ) σ) :=
  fun state => Std.Refl.refl state

theorem bind [IsTrans σ R] {action : ExceptT ε (StateM σ) α} {next : α → ExceptT ε (StateM σ) β}
    (first : Within R action) (rest : ∀ value, Within R (next value)) :
    Within R (action >>= next) := by
  intro state
  have reached := first state
  rw [outcome_bind]
  rcases run : outcome action state with ⟨answer, middle⟩
  rw [run] at reached
  cases answer with
  | ok value => exact IsTrans.trans _ _ _ reached (rest value middle)
  | error failure => exact reached

end Within

/-! ### What actions cannot tell apart -/

/-- The same answer in related states. -/
def Agree (R : σ → σ → Prop) (result other : Except ε α × σ) : Prop :=
  result.1 = other.1 ∧ R result.2 other.2

/-- From related states an action gives the same answer and leads to related states. -/
def Respects (R : σ → σ → Prop) (action : ExceptT ε (StateM σ) α) : Prop :=
  ∀ state other, R state other → Agree R (outcome action state) (outcome action other)

theorem Agree.bind {R : σ → σ → Prop} {action action' : ExceptT ε (StateM σ) α}
    {next next' : α → ExceptT ε (StateM σ) β} {state other : σ}
    (first : Agree R (outcome action state) (outcome action' other))
    (rest : ∀ value reached reached', R reached reached' →
      Agree R (outcome (next value) reached) (outcome (next' value) reached')) :
    Agree R (outcome (action >>= next) state) (outcome (action' >>= next') other) := by
  obtain ⟨same, reached⟩ := first
  rw [outcome_bind, outcome_bind]
  rcases run : outcome action state with ⟨answer, middle⟩
  rcases run' : outcome action' other with ⟨answer', middle'⟩
  rw [run, run'] at same reached
  dsimp only at same
  subst same
  cases answer with
  | ok value => exact rest value middle middle' reached
  | error failure => exact ⟨rfl, reached⟩

namespace Respects

variable {R : σ → σ → Prop}

theorem pure (value : α) : Respects R (Pure.pure value : ExceptT ε (StateM σ) α) :=
  fun _ _ related => ⟨rfl, related⟩

theorem throw (failure : ε) : Respects R (MonadExcept.throw failure : ExceptT ε (StateM σ) α) :=
  fun _ _ related => ⟨rfl, related⟩

theorem bind {action : ExceptT ε (StateM σ) α} {next : α → ExceptT ε (StateM σ) β}
    (first : Respects R action) (rest : ∀ value, Respects R (next value)) :
    Respects R (action >>= next) :=
  fun state other related => Agree.bind (first state other related) rest

end Respects

/-! ### Actions that turn out alike -/

/-- Either both fail with the same failure, in states related by `R`, or both answer, and then `Q`
relates the answers and the states. -/
inductive Coincide (R : σ → σ → Prop) (Q : α × σ → α × σ → Prop) :
    Except ε α × σ → Except ε α × σ → Prop where
  | error {failure : ε} {state other : σ} (related : R state other) :
    Coincide R Q (.error failure, state) (.error failure, other)
  | ok {value value' : α} {state other : σ} (related : Q (value, state) (value', other)) :
    Coincide R Q (.ok value, state) (.ok value', other)

namespace Coincide

variable {R S : σ → σ → Prop} {Q : α × σ → α × σ → Prop} {V : β × σ → β × σ → Prop}

theorem mono {result other : Except ε α × σ} {Q' : α × σ → α × σ → Prop}
    (coincide : Coincide R Q result other) (fails : ∀ state other, R state other → S state other)
    (ends : ∀ ended ended', Q ended ended' → Q' ended ended') : Coincide S Q' result other := by
  cases coincide with
  | error related => exact .error (fails _ _ related)
  | ok related => exact .ok (ends _ _ related)

theorem and_states {P : σ → σ → Prop} {result other : Except ε α × σ}
    (coincide : Coincide R Q result other) (states : P result.2 other.2) :
    Coincide (fun state other => R state other ∧ P state other)
      (fun ended ended' => Q ended ended' ∧ P ended.2 ended'.2) result other := by
  cases coincide with
  | error related => exact .error ⟨related, states⟩
  | ok related => exact .ok ⟨related, states⟩

section

variable {action action' : ExceptT ε (StateM σ) α} {next next' : α → ExceptT ε (StateM σ) β}
  {state other : σ}

theorem bind_of_runs (first : Coincide R Q (outcome action state) (outcome action' other))
    (rest : ∀ value value' reached reached', outcome action state = (.ok value, reached) →
      outcome action' other = (.ok value', reached') → Q (value, reached) (value', reached') →
      Coincide R V (outcome (next value) reached) (outcome (next' value') reached')) :
    Coincide R V (outcome (action >>= next) state) (outcome (action' >>= next') other) := by
  rw [outcome_bind, outcome_bind]
  generalize outcome action state = result at first rest ⊢
  generalize outcome action' other = result' at first rest ⊢
  cases first with
  | error related => exact .error related
  | ok related => exact rest _ _ _ _ rfl rfl related

theorem bind (first : Coincide R Q (outcome action state) (outcome action' other))
    (rest : ∀ value value' reached reached', Q (value, reached) (value', reached') →
      Coincide R V (outcome (next value) reached) (outcome (next' value') reached')) :
    Coincide R V (outcome (action >>= next) state) (outcome (action' >>= next') other) :=
  first.bind_of_runs fun _ _ _ _ _ _ related => rest _ _ _ _ related

end

end Coincide

theorem Agree.coincide {R : σ → σ → Prop} {result other : Except ε α × σ}
    (agree : Agree R result other) :
    Coincide R (fun ended ended' => ended.1 = ended'.1 ∧ R ended.2 ended'.2) result other := by
  obtain ⟨answer, state⟩ := result
  obtain ⟨answer', other⟩ := other
  obtain ⟨same, related⟩ := agree
  cases same
  cases answer with
  | ok value => exact .ok ⟨rfl, related⟩
  | error failure => exact .error related

end Parley
