import Mathlib.Algebra.Order.Ring.Rat
import Mathlib.Tactic.Linarith
import Parley.Proofs.Gateway.Isolation

/-!
When breakers open and close, told by the history of deliveries alone. Histories begin with the latest
delivery; times are exact.
-/

namespace Parley

namespace Sending

def delivered (sending : Sending) : Bool := sending.carried && sending.errand.refusal.isNone

/-- The carrier could not deliver, for now. -/
def fails (sending : Sending) : Bool :=
  sending.carried && sending.errand.refusal.any (·.isRetryable)

def finish (sending : Sending) : Rat := sending.errand.start + sending.errand.seconds

end Sending

/-! ### Histories -/

/-- The failures since the last delivery that worked. -/
def failuresInARow (past : List Sending) : Nat := (past.takeWhile (!·.delivered)).countP (·.fails)

/-- When the breaker has opened last, if it has not closed since: at a failure that is one too many,
or that hits a delivery on trial. -/
def openSince (threshold : Nat) (recovery : Rat) : List Sending → Option Rat
  | [] => none
  | sending :: past =>
    let onTrial := (openSince threshold recovery past).any
      fun since => recovery ≤ sending.errand.start - since
    if sending.delivered then none
    else if sending.fails && (failuresInARow past + 1 = threshold || onTrial) then
      some sending.finish
    else openSince threshold recovery past

/-- A delivery opens the breaker: it is one failure too many, or fails on trial. -/
def Sending.Opens (threshold : Nat) (recovery : Rat) (past : List Sending) (sending : Sending) :
    Prop :=
  sending.fails = true ∧
    (failuresInARow past + 1 = threshold ∨
      ∃ since, openSince threshold recovery past = some since ∧
        recovery ≤ sending.errand.start - since)

theorem openSince_of_opens {threshold : Nat} {recovery : Rat} {past : List Sending}
    {sending : Sending} (opens : sending.Opens threshold recovery past) :
    openSince threshold recovery (sending :: past) = some sending.finish := by
  obtain ⟨fails, why⟩ := opens
  have silent : sending.delivered = false := by
    cases refused : sending.errand.refusal <;>
      simp_all [Sending.fails, Sending.delivered]
  rcases why with last | ⟨since, opened, elapsed⟩
  · simp [openSince, silent, fails, last]
  · simp [openSince, silent, fails, opened, elapsed]

theorem openSince_of_not_opens {threshold : Nat} {recovery : Rat} {past : List Sending}
    {sending : Sending} (held : ¬ sending.Opens threshold recovery past)
    (silent : sending.delivered = false) :
    openSince threshold recovery (sending :: past) = openSince threshold recovery past := by
  rw [openSince, if_neg (by simp [silent]), if_neg]
  simpa [Sending.Opens, Option.any_eq_true] using held

theorem failuresInARow_cons (sending : Sending) (past : List Sending) :
    failuresInARow (sending :: past) =
      if sending.delivered then 0
      else failuresInARow past + if sending.fails then 1 else 0 := by
  cases delivered : sending.delivered <;> simp [failuresInARow, delivered, List.countP_cons]

/-! ### Breakers with an exact clock -/

namespace Breaker

variable {breaker : Breaker} {now : Rat}

theorem isOpen_iff (exact : breaker.precision = .exact) :
    breaker.isOpen now = true ↔
      ∃ since, breaker.openedAt = some since ∧ now - since < breaker.recovery := by
  unfold isOpen phase
  cases breaker.openedAt with
  | none => simp
  | some since =>
    by_cases elapsed : breaker.recovery ≤ now - since
    · simp [exact, elapsed]
    · simp [exact, elapsed, not_le.mp elapsed]

theorem phase_eq_halfOpen_iff (exact : breaker.precision = .exact) :
    breaker.phase now = .halfOpen ↔
      ∃ since, breaker.openedAt = some since ∧ breaker.recovery ≤ now - since := by
  unfold phase
  cases breaker.openedAt with
  | none => simp
  | some since =>
    by_cases elapsed : breaker.recovery ≤ now - since
    · simp [exact, elapsed]
    · simp [exact, elapsed]

/-- A breaker that opens only at failures that are too many, or at a failure of a delivery on trial. -/
theorem fail_openedAt (breaker : Breaker) (now : Rat) :
    (breaker.fail now).openedAt =
      if breaker.phase now = .halfOpen ∨ breaker.threshold ≤ (breaker.failures + 1 : Nat) then
        some now
      else breaker.openedAt := by
  unfold fail
  dsimp only
  split <;> split <;> first | rfl | contradiction

theorem fail_counts (breaker : Breaker) (now : Rat) :
    (breaker.fail now).failures = breaker.failures + 1 ∧
      (breaker.fail now).totalFailures = breaker.totalFailures + 1 ∧
      (breaker.fail now).totalSuccesses = breaker.totalSuccesses := by
  unfold fail
  dsimp only
  split <;> exact ⟨rfl, rfl, rfl⟩

theorem succeed_openedAt (breaker : Breaker) (now : Rat) :
    (breaker.succeed now).openedAt =
      if breaker.phase now = .halfOpen then none else breaker.openedAt := by
  unfold succeed
  dsimp only
  split <;> split <;> first | rfl | contradiction

theorem succeed_counts (breaker : Breaker) (now : Rat) :
    (breaker.succeed now).failures = 0 ∧
      (breaker.succeed now).totalFailures = breaker.totalFailures ∧
      (breaker.succeed now).totalSuccesses = breaker.totalSuccesses + 1 := by
  unfold succeed
  dsimp only
  split <;> exact ⟨rfl, rfl, rfl⟩

structure SetTo (threshold : Nat) (recovery : Rat) (breaker : Breaker) : Prop where
  threshold : breaker.threshold = threshold
  recovery : breaker.recovery = recovery
  exact : breaker.precision = .exact

namespace SetTo

variable {threshold : Nat} {recovery : Rat}

theorem fail (set : breaker.SetTo threshold recovery) (now : Rat) :
    (breaker.fail now).SetTo threshold recovery := by
  unfold Breaker.fail
  dsimp only
  split <;> exact ⟨set.threshold, set.recovery, set.exact⟩

theorem succeed (set : breaker.SetTo threshold recovery) (now : Rat) :
    (breaker.succeed now).SetTo threshold recovery := by
  unfold Breaker.succeed
  dsimp only
  split <;> exact ⟨set.threshold, set.recovery, set.exact⟩

end SetTo

/-- A breaker is where its history has brought it. -/
structure Follows (threshold : Nat) (recovery : Rat) (past : List Sending) (breaker : Breaker) :
    Prop where
  set : breaker.SetTo threshold recovery
  openedAt : breaker.openedAt = openSince threshold recovery past
  failures : breaker.failures = failuresInARow past
  totalFailures : breaker.totalFailures = past.countP (·.fails)
  totalSuccesses : breaker.totalSuccesses = past.countP (·.delivered)
  below : breaker.openedAt = none → breaker.failures < threshold

namespace Follows

variable {threshold : Nat} {recovery : Rat} {past : List Sending} {sending : Sending}

theorem idle (follows : breaker.Follows threshold recovery past)
    (silent : sending.delivered = false) (harmless : sending.fails = false) :
    breaker.Follows threshold recovery (sending :: past) where
  set := follows.set
  openedAt := by simp [openSince, silent, harmless, follows.openedAt]
  failures := by simp [failuresInARow_cons, silent, harmless, follows.failures]
  totalFailures := by simp [harmless, follows.totalFailures]
  totalSuccesses := by simp [silent, follows.totalSuccesses]
  below := follows.below

theorem waited (follows : breaker.Follows threshold recovery past)
    (admitted : breaker.isOpen sending.errand.start = false) {since : Rat}
    (opened : breaker.openedAt = some since) : recovery ≤ sending.errand.start - since := by
  by_contra early
  have blocked : breaker.isOpen sending.errand.start = true := by
    rw [isOpen_iff follows.set.exact, follows.set.recovery]
    exact ⟨since, opened, not_le.mp early⟩
  simp [admitted] at blocked

theorem onTrial_iff (follows : breaker.Follows threshold recovery past)
    (forward : 0 ≤ sending.errand.seconds)
    (admitted : breaker.isOpen sending.errand.start = false) :
    breaker.phase sending.finish = .halfOpen ↔ breaker.openedAt ≠ none := by
  rw [phase_eq_halfOpen_iff follows.set.exact, follows.set.recovery]
  constructor
  · rintro ⟨since, opened, _⟩ closed
    simp [opened] at closed
  · intro opened
    obtain ⟨since, at_⟩ := Option.ne_none_iff_exists'.mp opened
    have elapsed := follows.waited admitted at_
    refine ⟨since, at_, ?_⟩
    unfold Sending.finish
    linarith

theorem succeed (some_ : 1 ≤ threshold) (follows : breaker.Follows threshold recovery past)
    (forward : 0 ≤ sending.errand.seconds)
    (admitted : breaker.isOpen sending.errand.start = false)
    (delivered : sending.delivered = true) (harmless : sending.fails = false) :
    (breaker.succeed sending.finish).Follows threshold recovery (sending :: past) where
  set := follows.set.succeed _
  openedAt := by
    have trial := follows.onTrial_iff forward admitted
    cases opened : breaker.openedAt <;>
      simp [succeed_openedAt, openSince, delivered, trial, opened]
  failures := by simp [succeed_counts, failuresInARow_cons, delivered]
  totalFailures := by simp [succeed_counts, harmless, follows.totalFailures]
  totalSuccesses := by simp [succeed_counts, delivered, follows.totalSuccesses]
  below _ := by
    rw [(succeed_counts ..).1]
    omega

theorem last_iff (follows : breaker.Follows threshold recovery past)
    (closed : breaker.openedAt = none) :
    breaker.threshold ≤ ((breaker.failures + 1 : Nat) : Rat) ↔ failuresInARow past + 1 = threshold := by
  have few := follows.below closed
  rw [follows.set.threshold, Nat.cast_le, ← follows.failures]
  omega

theorem fail (follows : breaker.Follows threshold recovery past)
    (forward : 0 ≤ sending.errand.seconds)
    (admitted : breaker.isOpen sending.errand.start = false) (silent : sending.delivered = false)
    (fails : sending.fails = true) :
    (breaker.fail sending.finish).Follows threshold recovery (sending :: past) := by
  have trial := follows.onTrial_iff forward admitted
  have before := follows.openedAt
  refine ⟨follows.set.fail _, ?_, ?_, ?_, ?_, ?_⟩
  · cases opened : breaker.openedAt with
    | none =>
      rw [opened] at before
      simp only [fail_openedAt, follows.last_iff opened, openSince, silent, fails, ← before]
      simp [trial, opened]
    | some since =>
      have elapsed := follows.waited admitted opened
      rw [opened] at before
      simp [fail_openedAt, trial, openSince, silent, fails, ← before, opened, elapsed]
  · simp [fail_counts, failuresInARow_cons, silent, fails, follows.failures]
  · simp [fail_counts, fails, follows.totalFailures]
  · simp [fail_counts, silent, follows.totalSuccesses]
  · intro closed
    rw [fail_openedAt] at closed
    split at closed
    · cases closed
    · rename_i held
      have few := follows.below closed
      rw [(fail_counts ..).1]
      rw [follows.last_iff closed, ← follows.failures] at held
      omega

/-- What a delivery makes of its breaker, the history of the breaker tells. -/
theorem judge (some_ : 1 ≤ threshold) (follows : breaker.Follows threshold recovery past)
    (forward : 0 ≤ sending.errand.seconds)
    (admitted : breaker.isOpen sending.errand.start = false) (carried : sending.carried = true) :
    (Gateway.judge sending.errand.refusal sending.finish breaker).Follows threshold recovery
      (sending :: past) := by
  cases refused : sending.errand.refusal with
  | none =>
    apply follows.succeed some_ forward admitted
    · simp [Sending.delivered, carried, refused]
    · simp [Sending.fails, refused]
  | some refusal =>
    have silent : sending.delivered = false := by simp [Sending.delivered, refused]
    have fails : sending.fails = refusal.isRetryable := by simp [Sending.fails, carried, refused]
    rw [Gateway.judge_refusal]
    split
    · rename_i retryable
      exact follows.fail forward admitted silent (fails.trans retryable)
    · rename_i lasting
      exact follows.idle silent (by simp [fails, lasting])

end Follows

end Breaker

/-! ### Errands -/

/-- The history of a bot, the latest delivery first. -/
def historyOf (botId : String) (sendings : List Sending) : List Sending :=
  (sendings.filter (·.isOf botId)).reverse

theorem historyOf_append (botId : String) (sendings more : List Sending) :
    historyOf botId (sendings ++ more) = historyOf botId more ++ historyOf botId sendings := by
  simp [historyOf]

namespace Gateway

variable {threshold : Nat} {recovery : Rat} {gateway : Gateway Bool} {errand : Errand}

theorem run_follows (some_ : 1 ≤ threshold) (exact : gateway.precision = .exact)
    (forward : 0 ≤ errand.seconds) {past : List Sending}
    (follows : (gateway.breakerOf errand.bot.id).Follows threshold recovery past) :
    ((gateway.run errand).2.breakerOf errand.bot.id).Follows threshold recovery
      ((gateway.run errand).1 :: past) := by
  rw [run_breakerOf, run_sending, handled]
  cases admitted : gateway.admits errand with
  | false =>
    have stopped : (gateway.sendingOf errand).carried = false := admitted
    apply follows.idle
    · simp [Sending.delivered, stopped]
    · simp [Sending.fails, stopped]
  | true =>
    have open_ : (gateway.breakerOf errand.bot.id).isOpen errand.start = false := by
      simpa [admits] using admitted
    have finish : gateway.finishOf errand = (gateway.sendingOf errand).finish := by
      rw [finishOf, exact]
      rfl
    rw [if_pos rfl, finish]
    have carried : (gateway.sendingOf errand).carried = true := admitted
    exact follows.judge some_ forward open_ carried

/-- The breakers of all bots are where their histories have brought them. -/
structure Traces (threshold : Nat) (recovery : Rat) (sendings : List Sending)
    (gateway : Gateway Bool) : Prop where
  exact : gateway.precision = .exact
  follows : ∀ botId,
    (gateway.breakerOf botId).Follows threshold recovery (historyOf botId sendings)

theorem Traces.run {sendings : List Sending} (some_ : 1 ≤ threshold)
    (traces : gateway.Traces threshold recovery sendings) (forward : 0 ≤ errand.seconds) :
    (gateway.run errand).2.Traces threshold recovery (sendings ++ [(gateway.run errand).1]) where
  exact := by rw [(gateway.run_settings errand).2.2.2, traces.exact]
  follows botId := by
    have shown : (gateway.run errand).1.isOf botId = errand.isOf botId := by
      rw [run_sending]
      rfl
    rw [historyOf_append]
    by_cases own : errand.bot.id = botId
    · subst own
      have mine : historyOf errand.bot.id [(gateway.run errand).1] = [(gateway.run errand).1] := by
        simp [historyOf, shown, Errand.isOf]
      rw [mine]
      exact run_follows some_ traces.exact forward (traces.follows _)
    · have foreign : historyOf botId [(gateway.run errand).1] = [] := by
        simp [historyOf, shown, Errand.isOf, own]
      rw [foreign, (ServesAlike.skip gateway (Ne.symm own)).breakerOf]
      exact traces.follows botId

theorem Traces.runAll {sendings : List Sending} (some_ : 1 ≤ threshold)
    (traces : gateway.Traces threshold recovery sendings) {errands : List Errand}
    (forward : ∀ errand ∈ errands, 0 ≤ errand.seconds) :
    (gateway.runAll errands).2.Traces threshold recovery
      (sendings ++ (gateway.runAll errands).1) := by
  induction errands generalizing gateway sendings with
  | nil =>
    rw [Gateway.runAll, List.append_nil]
    exact traces
  | cons errand rest ih =>
    have first := traces.run some_ (forward errand List.mem_cons_self)
    have later := ih first fun errand member => forward errand (List.mem_cons_of_mem _ member)
    rwa [List.append_assoc] at later

theorem idle_traces (some_ : 1 ≤ threshold) (recovery : Rat) (name : String)
    (window : Option Nat) :
    (idle name threshold recovery .exact window).Traces threshold recovery [] where
  exact := rfl
  follows _ := ⟨⟨rfl, rfl, rfl⟩, rfl, rfl, rfl, rfl, fun _ => some_⟩

theorem run_rejected (silent : (gateway.run errand).1.delivered = false)
    (harmless : (gateway.run errand).1.fails = false) :
    (gateway.run errand).2.breakerOf errand.bot.id = gateway.breakerOf errand.bot.id := by
  rw [run_sending] at silent harmless
  rw [run_breakerOf, handled]
  cases admitted : gateway.admits errand with
  | false => rfl
  | true =>
    rw [if_pos rfl]
    cases refused : errand.refusal with
    | none => simp [Sending.delivered, sendingOf, refused, admitted] at silent
    | some refusal =>
      have lasting : refusal.isRetryable = false := by
        simpa [Sending.fails, sendingOf, refused, admitted] using harmless
      simp [judge_refusal, lasting]

/-- A delivery is held back exactly while the breaker is open. The breaker opens at the failure that is
one too many since the last success, or at a failure of a delivery on trial; a success closes it, and
what is rejected for good changes nothing. While it is closed, there are fewer failures than it takes. -/
theorem breakers_follow_history (name : String) {threshold : Nat} (some_ : 1 ≤ threshold)
    (recovery : Rat) (window : Option Nat) (earlier : List Errand) (errand : Errand)
    (forward : ∀ each ∈ earlier ++ [errand], 0 ≤ each.seconds) :
    let ran := (idle name threshold recovery .exact window).runAll earlier
    let past := historyOf errand.bot.id ran.1
    let sent := ran.2.run errand
    let breaker := ran.2.breakerOf errand.bot.id
    let after := sent.2.breakerOf errand.bot.id
    breaker.Follows threshold recovery past ∧
      after.Follows threshold recovery (sent.1 :: past) ∧
      (sent.1.carried = false ↔ ∃ since, openSince threshold recovery past = some since ∧
        errand.start - since < recovery) ∧
      (sent.1.Opens threshold recovery past → after.openedAt = some sent.1.finish) ∧
      (sent.1.delivered = true → after.openedAt = none ∧ after.failures = 0) ∧
      (¬ sent.1.Opens threshold recovery past → sent.1.delivered = false →
        after.openedAt = breaker.openedAt) ∧
      (sent.1.fails = false → sent.1.delivered = false → after = breaker) := by
  intro ran past sent breaker after
  have before : ∀ each ∈ earlier, 0 ≤ each.seconds :=
    fun each member => forward each (List.mem_append_left _ member)
  have traces := (idle_traces some_ recovery name window).runAll some_ before
  rw [List.nil_append] at traces
  have follows : breaker.Follows threshold recovery past := traces.follows errand.bot.id
  have later : after.Follows threshold recovery (sent.1 :: past) :=
    run_follows some_ traces.exact (forward errand (by simp)) follows
  refine ⟨follows, later, ?_, ?_, ?_, ?_, ?_⟩
  · have carried : sent.1.carried = ran.2.admits errand := congrArg Sending.carried (run_sending ..)
    rw [carried, admits, Bool.not_eq_false', Breaker.isOpen_iff follows.set.exact,
      follows.set.recovery, follows.openedAt]
  · intro opens
    rw [later.openedAt, openSince_of_opens opens]
  · intro delivered
    rw [later.openedAt, later.failures]
    simp [openSince, failuresInARow_cons, delivered]
  · intro held silent
    rw [later.openedAt, openSince_of_not_opens held silent, follows.openedAt]
  · intro harmless silent
    exact run_rejected silent harmless

def stumbling (start : Rat) (refusal : Option Refusal) : Errand where
  bot := { id := "bot" }
  recipientId := "ada"
  outbound := .typing true
  start := start
  refusal := refusal
  seconds := 1

def stumbles : List Errand :=
  [stumbling 0 (some (.broke "down")), stumbling 10 (some (.declined "no" false none)),
    stumbling 20 (some (.broke "down"))]

theorem second_failure_holds_back :
    (1 ≤ 2 ∧ ∀ each ∈ stumbles ++ [stumbling 80 none], 0 ≤ each.seconds) ∧
      (((idle "test" (2 : Nat) 60 .exact none).runAll stumbles).2.run
        (stumbling 80 none)).1.carried = false := by
  have forward : ∀ each ∈ stumbles ++ [stumbling 80 none], 0 ≤ each.seconds := by
    intro each member
    simp only [stumbles, List.cons_append, List.nil_append, List.mem_cons, List.not_mem_nil,
      or_false] at member
    rcases member with rfl | rfl | rfl | rfl <;> exact zero_le_one
  have law := breakers_follow_history "test" (show 1 ≤ 2 by decide) 60 none stumbles
    (stumbling 80 none) forward
  exact ⟨⟨by decide, forward⟩, law.2.2.1.mpr ⟨21, by decide +kernel, by decide +kernel⟩⟩

end Gateway

end Parley
