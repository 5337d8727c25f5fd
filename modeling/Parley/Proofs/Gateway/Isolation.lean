import Parley.Proofs.Gateway.Errands

/-!
Bots that share a gateway. What comes of the errands of a bot is told by those errands alone, whatever
is delivered for other bots in between; and the gateway counts what came of all of them.
-/

namespace Parley

def Errand.isOf (botId : String) (errand : Errand) : Bool := errand.bot.id = botId

def Sending.isOf (botId : String) (sending : Sending) : Bool := sending.errand.isOf botId

namespace Gateway

/-- Two gateways that are set up alike and have the same breaker for a bot. -/
structure ServesAlike (botId : String) (gateway other : Gateway Bool) : Prop where
  name : other.name = gateway.name
  threshold : other.threshold = gateway.threshold
  recovery : other.recovery = gateway.recovery
  precision : other.precision = gateway.precision
  breaker : findBreaker botId other.breakers = findBreaker botId gateway.breakers

namespace ServesAlike

variable {botId : String} {gateway other : Gateway Bool} {errand : Errand}

theorem refl (botId : String) (gateway : Gateway Bool) : gateway.ServesAlike botId gateway :=
  ⟨rfl, rfl, rfl, rfl, rfl⟩

theorem symm (alike : gateway.ServesAlike botId other) : other.ServesAlike botId gateway :=
  ⟨alike.name.symm, alike.threshold.symm, alike.recovery.symm, alike.precision.symm,
    alike.breaker.symm⟩

theorem trans {third : Gateway Bool} (first : gateway.ServesAlike botId other)
    (second : other.ServesAlike botId third) : gateway.ServesAlike botId third where
  name := second.name.trans first.name
  threshold := second.threshold.trans first.threshold
  recovery := second.recovery.trans first.recovery
  precision := second.precision.trans first.precision
  breaker := second.breaker.trans first.breaker

theorem breakerOf (alike : gateway.ServesAlike botId other) :
    other.breakerOf botId = gateway.breakerOf botId := by
  unfold Gateway.breakerOf
  rw [alike.breaker, alike.threshold, alike.recovery, alike.precision]

theorem admits (alike : gateway.ServesAlike botId other) (own : errand.bot.id = botId) :
    other.admits errand = gateway.admits errand := by
  subst own
  unfold Gateway.admits
  rw [alike.breakerOf]

theorem handled (alike : gateway.ServesAlike botId other) (own : errand.bot.id = botId) :
    other.handled errand = gateway.handled errand := by
  have admitted := alike.admits own
  subst own
  unfold Gateway.handled finishOf
  rw [admitted, alike.precision, alike.breakerOf]

theorem sendingOf (alike : gateway.ServesAlike botId other) (own : errand.bot.id = botId) :
    other.sendingOf errand = gateway.sendingOf errand := by
  have told : other.failureOf errand.bot errand.recipientId errand.outbound =
      gateway.failureOf errand.bot errand.recipientId errand.outbound := by
    funext refusal
    cases refusal with
    | broke cause =>
      unfold failureOf
      dsimp only
      rw [alike.name]
    | declined => rfl
  unfold Gateway.sendingOf blocked
  rw [alike.admits own, told, alike.name]

end ServesAlike

namespace ServesAlike

variable {botId : String} {gateway other : Gateway Bool}

theorem run (alike : gateway.ServesAlike botId other) {errand : Errand}
    (own : errand.bot.id = botId) :
    (other.run errand).1 = (gateway.run errand).1 ∧
      (gateway.run errand).2.ServesAlike botId (other.run errand).2 := by
  obtain ⟨name, threshold, recovery, precision⟩ := gateway.run_settings errand
  obtain ⟨name', threshold', recovery', precision'⟩ := other.run_settings errand
  refine ⟨by rw [run_sending, run_sending, alike.sendingOf own], ?_, ?_, ?_, ?_, ?_⟩
  · rw [name, name', alike.name]
  · rw [threshold, threshold', alike.threshold]
  · rw [recovery, recovery', alike.recovery]
  · rw [precision, precision', alike.precision]
  · have same := alike.handled own
    subst own
    rw [run_own, run_own, same]

theorem skip (gateway : Gateway Bool) {errand : Errand} (foreign : botId ≠ errand.bot.id) :
    gateway.ServesAlike botId (gateway.run errand).2 := by
  obtain ⟨name, threshold, recovery, precision⟩ := gateway.run_settings errand
  exact ⟨name, threshold, recovery, precision, run_other gateway errand foreign⟩

theorem runAll (alike : gateway.ServesAlike botId other) (errands : List Errand) :
    (gateway.runAll errands).1.filter (·.isOf botId) =
        (other.runAll (errands.filter (·.isOf botId))).1 ∧
      (gateway.runAll errands).2.ServesAlike botId
        (other.runAll (errands.filter (·.isOf botId))).2 := by
  induction errands generalizing gateway other with
  | nil => exact ⟨rfl, alike⟩
  | cons errand rest ih =>
    have shown : (gateway.run errand).1.isOf botId = errand.isOf botId := by
      rw [run_sending]
      rfl
    by_cases own : errand.bot.id = botId
    · have mine : errand.isOf botId = true := decide_eq_true own
      obtain ⟨told, after⟩ := alike.run own
      obtain ⟨others, reached⟩ := ih after
      rw [List.filter_cons_of_pos mine]
      simp only [Gateway.runAll, List.filter_cons, shown, mine, if_true, others, told]
      exact ⟨trivial, reached⟩
    · have foreign : errand.isOf botId = false := decide_eq_false own
      obtain ⟨others, reached⟩ := ih ((skip gateway (Ne.symm own)).symm.trans alike)
      rw [List.filter_cons_of_neg (by simp [foreign])]
      simp only [Gateway.runAll, List.filter_cons, shown, foreign]
      exact ⟨others, reached⟩

end ServesAlike

end Gateway

/-! ### What is counted -/

def Sending.error? (sending : Sending) : Option String :=
  if sending.carried then sending.errand.refusal.map Gateway.Refusal.text else some "circuit_open"

/-- The errors of some errands that say something, in order. -/
def spokenErrors (sendings : List Sending) : List String :=
  (sendings.filterMap (·.error?)).filter (· ≠ "")

namespace Metrics

theorem keepLast_append {α : Type} (count : Nat) (items more : List α) :
    keepLast count (keepLast count items ++ more) = keepLast count (items ++ more) := by
  unfold keepLast
  rw [← List.drop_append_of_le_length (Nat.sub_le _ _), List.drop_drop, List.length_drop,
    List.length_append]
  congr 1
  omega

theorem keepLast_of_short {α : Type} {count : Nat} {items : List α}
    (short : items.length ≤ count) : keepLast count items = items := by
  rw [keepLast, Nat.sub_eq_zero_of_le short, List.drop_zero]

theorem keepLast_map {α β : Type} (shown : α → β) (count : Nat) (items : List α) :
    keepLast count (items.map shown) = (keepLast count items).map shown := by
  rw [keepLast, keepLast, List.length_map, List.map_drop]

theorem length_keepLast {α : Type} (count : Nat) (items : List α) :
    (keepLast count items).length ≤ count := by
  rw [keepLast, List.length_drop]
  omega

/-- What metrics have become after some errands. -/
structure Counts (sendings : List Sending) (before after : Metrics) : Prop where
  sent : after.sent = before.sent + sendings.countP (·.failure.isNone)
  failed : after.failed = before.failed + sendings.countP (·.failure.isSome)
  errors : after.errors =
    keepLast maxErrors (before.errors ++ (spokenErrors sendings).map Json.str)

theorem Counts.append {first second : List Sending} {before middle after : Metrics}
    (counts : Counts first before middle) (more : Counts second middle after) :
    Counts (first ++ second) before after where
  sent := by rw [more.sent, counts.sent, List.countP_append, Nat.add_assoc]
  failed := by rw [more.failed, counts.failed, List.countP_append, Nat.add_assoc]
  errors := by
    rw [more.errors, counts.errors, keepLast_append, spokenErrors, spokenErrors, spokenErrors,
      List.filterMap_append, List.filter_append, List.map_append, List.append_assoc]

theorem fail_counts {sending : Sending} {metrics : Metrics} {text : String}
    (short : metrics.errors.length ≤ maxErrors) (failed : sending.failure.isSome = true)
    (error : sending.error? = some text) : Counts [sending] metrics (metrics.fail (.str text)) where
  sent := by simp [fail, Option.isSome_iff_ne_none.mp failed]
  failed := by simp [fail, failed]
  errors := by
    by_cases silent : text = ""
    · subst silent
      simp [fail, Json.isPresent, spokenErrors, error, keepLast_of_short short]
    · simp [fail, Json.isPresent, spokenErrors, error, silent]

theorem succeed_counts {sending : Sending} {metrics : Metrics} (latency : Float)
    (short : metrics.errors.length ≤ maxErrors) (returned : sending.failure = none)
    (error : sending.error? = none) : Counts [sending] metrics (metrics.succeed latency) where
  sent := by simp [succeed, returned]
  failed := by simp [succeed, returned]
  errors := by simp [succeed, spokenErrors, error, keepLast_of_short short]

end Metrics

namespace Gateway

theorem counted_counts (gateway : Gateway Bool) (errand : Errand)
    (short : gateway.metrics.errors.length ≤ Metrics.maxErrors) :
    Metrics.Counts [gateway.sendingOf errand] gateway.metrics (gateway.counted errand) := by
  unfold counted
  cases admitted : gateway.admits errand with
  | false =>
    apply Metrics.fail_counts short
    · simp [sendingOf, admitted]
    · simp [Sending.error?, sendingOf, admitted]
  | true =>
    cases refused : errand.refusal with
    | none =>
      apply Metrics.succeed_counts _ short
      · simp [sendingOf, admitted, refused]
      · simp [Sending.error?, sendingOf, admitted, refused]
    | some refusal =>
      apply Metrics.fail_counts short
      · simp [sendingOf, admitted, refused]
      · simp [Sending.error?, sendingOf, admitted, refused]

theorem runAll_counts (gateway : Gateway Bool) (errands : List Errand)
    (short : gateway.metrics.errors.length ≤ Metrics.maxErrors) :
    Metrics.Counts (gateway.runAll errands).1 gateway.metrics (gateway.runAll errands).2.metrics := by
  induction errands generalizing gateway with
  | nil =>
    refine ⟨rfl, rfl, ?_⟩
    rw [runAll, spokenErrors, List.filterMap_nil, List.filter_nil, List.map_nil, List.append_nil,
      Metrics.keepLast_of_short short]
  | cons errand rest ih =>
    have first := gateway.counted_counts errand short
    rw [← run_metrics, ← run_sending] at first
    have kept : (gateway.run errand).2.metrics.errors.length ≤ Metrics.maxErrors := by
      rw [first.errors]
      exact Metrics.length_keepLast ..
    exact first.append (ih (gateway.run errand).2 kept)

theorem runAll_answers (gateway : Gateway Bool) (errands : List Errand) :
    (gateway.runAll errands).1.map (·.errand) = errands := by
  induction errands generalizing gateway with
  | nil => rfl
  | cons errand rest ih =>
    rw [runAll, List.map_cons, ih, run_sending]
    rfl

/-- What senders are told: nothing, the failure that a refusal means, or that the breaker is open. -/
theorem runAll_tells (gateway : Gateway Bool) (errands : List Errand) {sending : Sending}
    (ran : sending ∈ (gateway.runAll errands).1) :
    sending.failure =
      if sending.carried then
        sending.errand.refusal.map (gateway.failureOf sending.errand.bot sending.errand.recipientId
          sending.errand.outbound)
      else some (gateway.blocked sending.errand.bot sending.errand.recipientId) := by
  induction errands generalizing gateway with
  | nil => cases ran
  | cons errand rest ih =>
    rcases List.mem_cons.mp ran with rfl | later
    · rw [run_sending]
      rfl
    · have told := ih (gateway.run errand).2 later
      unfold failureOf blocked at told ⊢
      rwa [(gateway.run_settings errand).1] at told

def idle (name : String) (threshold recovery : Rat) (precision : Number.Precision)
    (window : Option Nat) : Gateway Bool where
  name := name
  threshold := threshold
  recovery := recovery
  metrics := { window }
  precision := precision
  medium := false

/-- What comes of the errands of a bot, and its breaker, are the same as if there were no other bots.
Whatever goes wrong is told as a delivery failure, and the gateway counts what came of all errands and
keeps the last ten errors that say something. -/
theorem breakers_isolate_bots (name : String) (threshold recovery : Rat)
    (precision : Number.Precision) (window : Option Nat) (errands : List Errand) (botId : String) :
    let gateway := idle name threshold recovery precision window
    let whole := gateway.runAll errands
    let alone := gateway.runAll (errands.filter (·.isOf botId))
    whole.1.filter (·.isOf botId) = alone.1 ∧
      findBreaker botId whole.2.breakers = findBreaker botId alone.2.breakers ∧
      whole.1.map (·.errand) = errands ∧
      (∀ sending ∈ whole.1, sending.failure =
        if sending.carried then
          sending.errand.refusal.map (gateway.failureOf sending.errand.bot
            sending.errand.recipientId sending.errand.outbound)
        else some (gateway.blocked sending.errand.bot sending.errand.recipientId)) ∧
      whole.2.metrics.sent = whole.1.countP (·.failure.isNone) ∧
      whole.2.metrics.failed = whole.1.countP (·.failure.isSome) ∧
      whole.2.metrics.errors = (Metrics.keepLast 10 (spokenErrors whole.1)).map Json.str := by
  intro gateway whole alone
  obtain ⟨told, alike⟩ := (ServesAlike.refl botId gateway).runAll errands
  have counts := gateway.runAll_counts errands (Nat.zero_le _)
  refine ⟨told, alike.breaker.symm, gateway.runAll_answers errands,
    fun sending ran => gateway.runAll_tells errands ran, ?_, ?_, ?_⟩
  · rw [counts.sent]
    exact Nat.zero_add _
  · rw [counts.failed]
    exact Nat.zero_add _
  · rw [counts.errors, ← Metrics.keepLast_map]
    rfl

/-- The first errand breaks down and opens the breaker of its bot, which refuses the third; the second is
for another bot. -/
def quarrel : List Errand :=
  [{ bot := { id := "frail" }, recipientId := "ada", outbound := .typing true, start := 0,
     refusal := some (.broke "down") },
    { bot := { id := "sound" }, recipientId := "ada", outbound := .typing true, start := 1 },
    { bot := { id := "frail" }, recipientId := "bob", outbound := .message (.text "hi"), start := 2 }]

theorem sound_bot_is_served :
    ((idle "test" 1 60 .exact none).runAll quarrel).1.map (·.carried) = [true, true, false] ∧
      (((idle "test" 1 60 .exact none).runAll quarrel).1.filter (·.isOf "sound")).map
        (fun sending => (sending.carried, sending.failure.isNone)) = [(true, true)] := by
  refine ⟨by decide +kernel, ?_⟩
  rw [(breakers_isolate_bots "test" 1 60 .exact none quarrel "sound").1]
  decide +kernel

end Gateway

end Parley
