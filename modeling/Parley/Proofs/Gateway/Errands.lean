import Parley.Gateway.Guard

/-!
Errands: messages to deliver one after the other, each with the time at which its delivery begins and
with what its carrier makes of it. An errand looks at the breaker of its own bot and changes no other.
-/

namespace Parley

def Refusal.isRetryable : Refusal → Bool
  | .broke _ => true
  | .declined _ retryable _ => retryable

structure Errand where
  bot : Bot
  recipientId : String
  outbound : Outbound
  start : Rat
  refusal : Option Refusal := none
  seconds : Rat := 0

/-- What has come of an errand: whether its carrier was called, and what its sender was told. -/
structure Sending where
  errand : Errand
  carried : Bool
  failure : Option DeliveryFailure

def Errand.carry (errand : Errand) : Carrier Bool := fun _ _ _ _ =>
  { refusal := errand.refusal, seconds := errand.seconds, medium := true }

namespace Gateway

def run (errand : Errand) (gateway : Gateway Bool) : Sending × Gateway Bool :=
  let sent := { gateway with clock := errand.start, medium := false }.send errand.carry errand.bot
    errand.recipientId errand.outbound
  ({ errand, carried := sent.2.medium, failure := sent.1 }, sent.2)

def runAll : List Errand → Gateway Bool → List Sending × Gateway Bool
  | [], gateway => ([], gateway)
  | errand :: rest, gateway =>
    let first := gateway.run errand
    let more := runAll rest first.2
    (first.1 :: more.1, more.2)

/-! ### The breakers of bots -/

theorem findBreaker_putBreaker_same (botId : String) (breaker : Breaker)
    (breakers : List (String × Breaker)) :
    findBreaker botId (putBreaker botId breaker breakers) = some breaker := by
  induction breakers with
  | nil => simp [putBreaker, findBreaker]
  | cons entry rest ih =>
    obtain ⟨key, old⟩ := entry
    by_cases own : key = botId <;> simp [putBreaker, findBreaker, own, ih]

theorem findBreaker_putBreaker_other {botId other : String} (differ : other ≠ botId)
    (breaker : Breaker) (breakers : List (String × Breaker)) :
    findBreaker other (putBreaker botId breaker breakers) = findBreaker other breakers := by
  induction breakers with
  | nil => simp [putBreaker, findBreaker, Ne.symm differ]
  | cons entry rest ih =>
    obtain ⟨key, old⟩ := entry
    by_cases own : key = botId
    · subst own
      simp [putBreaker, findBreaker, Ne.symm differ]
    · simp [putBreaker, findBreaker, own, ih]

theorem putBreaker_putBreaker (botId : String) (breaker old : Breaker)
    (breakers : List (String × Breaker)) :
    putBreaker botId breaker (putBreaker botId old breakers) = putBreaker botId breaker breakers := by
  induction breakers with
  | nil => simp [putBreaker]
  | cons entry rest ih =>
    obtain ⟨key, other⟩ := entry
    by_cases own : key = botId <;> simp [putBreaker, own, ih]

/-! ### Deliveries -/

section

variable {σ : Type} {gateway : Gateway σ} (carry : Carrier σ) (bot : Bot) (recipientId : String)
  (outbound : Outbound)

theorem failureOf_retryable (refusal : Refusal) :
    (gateway.failureOf bot recipientId outbound refusal).retryable = refusal.isRetryable := by
  cases refusal <;> rfl

theorem judge_refusal (refusal : Refusal) (now : Rat) (breaker : Breaker) :
    judge (some refusal) now breaker = if refusal.isRetryable then breaker.fail now else breaker := by
  cases refusal <;> rfl

theorem send_of_open (opened : (gateway.breakerOf bot.id).isOpen gateway.clock = true) :
    gateway.send carry bot recipientId outbound =
      (some (gateway.blocked bot recipientId),
        { gateway with
          breakers := putBreaker bot.id (gateway.breakerOf bot.id) gateway.breakers
          metrics := gateway.metrics.fail (.str "circuit_open") }) := if_pos opened

theorem send_of_admitted (admitted : (gateway.breakerOf bot.id).isOpen gateway.clock = false) :
    gateway.send carry bot recipientId outbound =
      let delivery := carry bot recipientId outbound gateway.medium
      let clock := gateway.precision.add gateway.clock delivery.seconds
      let millis := gateway.precision.mul (gateway.precision.sub clock gateway.clock) 1000
      (delivery.refusal.map (gateway.failureOf bot recipientId outbound),
        { gateway with
          breakers := putBreaker bot.id (judge delivery.refusal clock (gateway.breakerOf bot.id))
            (putBreaker bot.id (gateway.breakerOf bot.id) gateway.breakers)
          metrics := count delivery.refusal millis gateway.metrics
          clock
          medium := delivery.medium }) := if_neg (Bool.eq_false_iff.mp admitted)

end

/-! ### Errands -/

def admits (gateway : Gateway Bool) (errand : Errand) : Bool :=
  !(gateway.breakerOf errand.bot.id).isOpen errand.start

def finishOf (gateway : Gateway Bool) (errand : Errand) : Rat :=
  gateway.precision.add errand.start errand.seconds

def sendingOf (gateway : Gateway Bool) (errand : Errand) : Sending where
  errand := errand
  carried := gateway.admits errand
  failure :=
    if gateway.admits errand then
      errand.refusal.map (gateway.failureOf errand.bot errand.recipientId errand.outbound)
    else some (gateway.blocked errand.bot errand.recipientId)

/-- The breaker of its bot after an errand. -/
def handled (gateway : Gateway Bool) (errand : Errand) : Breaker :=
  if gateway.admits errand then
    judge errand.refusal (gateway.finishOf errand) (gateway.breakerOf errand.bot.id)
  else gateway.breakerOf errand.bot.id

def counted (gateway : Gateway Bool) (errand : Errand) : Metrics :=
  if gateway.admits errand then
    count errand.refusal (gateway.precision.mul
      (gateway.precision.sub (gateway.finishOf errand) errand.start) 1000) gateway.metrics
  else gateway.metrics.fail (.str "circuit_open")

variable (gateway : Gateway Bool) (errand : Errand)

theorem run_eq :
    gateway.run errand =
      (gateway.sendingOf errand,
        { gateway with
          breakers := putBreaker errand.bot.id (gateway.handled errand) gateway.breakers
          metrics := gateway.counted errand
          clock := if gateway.admits errand then gateway.finishOf errand else errand.start
          medium := gateway.admits errand }) := by
  let asked : Gateway Bool := { gateway with clock := errand.start, medium := false }
  have looks : gateway.admits errand = !(asked.breakerOf errand.bot.id).isOpen asked.clock := rfl
  unfold run sendingOf counted handled
  cases admitted : gateway.admits errand with
  | true =>
    have closed : (asked.breakerOf errand.bot.id).isOpen asked.clock = false := by
      simpa [looks] using admitted
    rw [send_of_admitted errand.carry errand.bot errand.recipientId errand.outbound closed]
    dsimp only
    rw [putBreaker_putBreaker]
    rfl
  | false =>
    have opened : (asked.breakerOf errand.bot.id).isOpen asked.clock = true := by
      simpa [looks] using admitted
    rw [send_of_open errand.carry errand.bot errand.recipientId errand.outbound opened]
    rfl

theorem run_sending : (gateway.run errand).1 = gateway.sendingOf errand := by rw [run_eq]

theorem run_metrics : (gateway.run errand).2.metrics = gateway.counted errand := by rw [run_eq]

theorem run_own : findBreaker errand.bot.id (gateway.run errand).2.breakers =
    some (gateway.handled errand) := by
  rw [run_eq]
  exact findBreaker_putBreaker_same ..

theorem run_breakerOf :
    (gateway.run errand).2.breakerOf errand.bot.id = gateway.handled errand := by
  rw [breakerOf, run_own, Option.getD_some]

theorem run_other {botId : String} (differ : botId ≠ errand.bot.id) :
    findBreaker botId (gateway.run errand).2.breakers = findBreaker botId gateway.breakers := by
  rw [run_eq]
  exact findBreaker_putBreaker_other differ ..

theorem run_settings :
    let after := (gateway.run errand).2
    after.name = gateway.name ∧ after.threshold = gateway.threshold ∧
      after.recovery = gateway.recovery ∧ after.precision = gateway.precision := by
  rw [run_eq]
  exact ⟨rfl, rfl, rfl, rfl⟩

end Gateway

end Parley
