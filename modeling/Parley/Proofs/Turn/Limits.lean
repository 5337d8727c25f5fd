import Parley.Proofs.Engine.Circles
import Parley.Proofs.Storage.Content
import Parley.Proofs.Turn.Phases
import Parley.Proofs.Turn.Questions

/-!
Turns that fail at a limit: those whose plan does. No request to the store fails for a limit.
-/

namespace Parley

/-! ### Requests -/

theorem Sql.saveSession_error {found : Option SessionRow} {session : Session} {sql : Sql}
    {failure : Failure} (refused : sql.saveSession found session = .error failure) :
    failure.isLimit = false := by
  unfold Sql.saveSession at refused
  split at refused
  · cases refused
    rfl
  · split at refused
    · cases refused
    · dsimp only at refused
      split at refused
      · cases refused
        rfl
      · cases refused

/-- An action that fails for no limit of a turn. -/
def Unlimited {α : Type} (action : StoreM α) : Prop :=
  ∀ storage failure reached, outcome action storage = (.error failure, reached) →
    failure.isLimit = false

namespace Unlimited

variable {α β : Type}

theorem pure (value : α) : Unlimited (Pure.pure value : StoreM α) := by
  intro storage failure reached run
  cases run

theorem bind {action : StoreM α} {next : α → StoreM β} (first : Unlimited action)
    (rest : ∀ value, Unlimited (next value)) : Unlimited (action >>= next) := by
  intro storage failure reached run
  rcases outcome_bind_error run with failed | ⟨value, middle, _, failed⟩
  · exact first storage failure reached failed
  · exact rest value middle failure reached failed

theorem request {kind : Request} {onMemory : Memory → StoreM α} {onSql : Sql → StoreM α}
    (memory : ∀ memory, Unlimited (onMemory memory)) (sql : ∀ sql, Unlimited (onSql sql)) :
    Unlimited (Storage.request kind onMemory onSql) := by
  intro storage failure reached run
  rw [Storage.outcome_request] at run
  split at run
  · cases run
    rfl
  · split at run
    · exact memory _ _ _ _ run
    · split at run
      · cases run
        rfl
      · exact sql _ _ _ _ run

theorem retrying {attempt : Sql → StoreM α} (each : ∀ sql, Unlimited (attempt sql))
    (attempts : Nat) : Unlimited (Storage.retrying attempt attempts) := by
  refine Storage.retrying_ends (fun _ ended => ∀ failure reached,
    ended = (.error failure, reached) → failure.isLimit = false) ?_ ?_ ?_ attempts
  · rintro storage memory content failure reached ⟨⟩
    rfl
  · exact fun storage sql _ failure reached => each sql storage failure reached
  · exact fun _ _ _ _ _ _ later => later

theorem saveSession (session : Session) : Unlimited (Storage.saveSession session) := by
  apply request
  · intro memory storage failure reached run
    cases run
  · intro _
    apply retrying
    intro sql storage failure reached run
    obtain ⟨found, middle, look, _⟩ :=
      Storage.lookUpSession_finds session.botId session.senderId sql storage
    rw [Storage.saveSession.attempt, outcome_bind_of_ok look,
      outcome_bind_of_ok (Storage.outcome_draw _ _), outcome_bind, Storage.outcome_ofExcept] at run
    cases saved : sql.saveSession found session with
    | error failed =>
      rw [saved] at run
      cases run
      exact Sql.saveSession_error saved
    | ok answer =>
      rw [saved] at run
      cases run

end Unlimited

/-! ### Turns -/

def Options.budget (options : Options) : Budget where
  limit := options.maxSteps
  limitText := options.maxStepsText

@[simp] theorem Options.budget_remaining (options : Options) :
    options.budget.remaining = options.maxSteps.toNat := by
  simp [Options.budget, Budget.remaining]

namespace Turn

variable {σ : Type}

theorem settle_limit {session : Session} {start : Start} {plan : Plan} {sent : Nat} {failure : Failure}
    (limit : failure.isLimit = true) (storage : Storage) :
    (outcome (settle session start plan sent) storage).1 = .error failure ↔
      plan.ending = .failed failure := by
  rcases park_cases session start plan with ⟨failure', ending, thrown⟩ | ⟨parked, ending, saves⟩
  · have settled : outcome (settle session start plan sent) storage = (.error failure', storage) := by
      rw [settle, thrown]
      rfl
    rw [settled, ending]
    simp
  · have unlimited : Unlimited (settle session start plan sent) := by
      apply Unlimited.bind
      · rw [saves]
        exact Unlimited.saveSession _
      · intro saved
        exact Unlimited.pure _
    constructor
    · intro failed
      have other := unlimited storage failure _ (Prod.ext failed rfl)
      cases limit.symm.trans other
    · intro failed
      rw [ending] at failed
      cases parked <;> cases failed

def FailsWith (carry : Carrier σ) (options : Options) (bot : Bot) (incoming : Incoming)
    (world : World σ) (failure : Failure) : Prop :=
  (outcome (attempt carry options bot incoming) world).1 = .error failure

def FailsAtLimit (carry : Carrier σ) (options : Options) (bot : Bot) (incoming : Incoming)
    (world : World σ) : Prop :=
  ∃ failure, FailsWith carry options bot incoming world failure ∧ failure.isLimit = true

variable {options : Options} {bot : Bot} {incoming : Incoming} {world : World σ} {session : Session}
  {start : Start} {reached : Storage}

theorem failsWith_iff (carry : Carrier σ)
    (opened : outcome (ready options bot incoming) world.storage = (.ok (session, start), reached))
    {failure : Failure} (limit : failure.isLimit = true) :
    FailsWith carry options bot incoming world failure ↔
      (planFrom options reached start).ending = .failed failure := by
  rw [FailsWith, attempt_of_ready carry options bot incoming opened]
  exact settle_limit limit _

theorem failsAtLimit_iff (carry : Carrier σ)
    (opened : outcome (ready options bot incoming) world.storage = (.ok (session, start), reached)) :
    FailsAtLimit carry options bot incoming world ↔ (planFrom options reached start).Limited := by
  constructor
  · rintro ⟨failure, fails, limit⟩
    exact ⟨failure, (failsWith_iff carry opened limit).mp fails, limit⟩
  · rintro ⟨failure, ending, limit⟩
    exact ⟨failure, (failsWith_iff carry opened limit).mpr ending, limit⟩

end Turn

end Parley
