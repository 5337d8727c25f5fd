import Parley.Json.Basic
import Parley.Number.Rounding
import Parley.Outbound
import Parley.Record.Bot

/-!
Gateways, with the breakers that guard their deliveries and what they count and report.
-/

/-! ## Circuit breakers

After too many failures in a row a breaker opens, and nothing is delivered until some time has
passed; then the next delivery decides whether it closes or opens again. Times are seconds of a
clock that never goes back.
-/

namespace Parley

structure Breaker where
  /-- The number of failures in a row at which it opens. -/
  threshold : Rat := 5
  recovery : Rat := 60
  /-- When it was last opened, if it has not closed since. -/
  openedAt : Option Rat := none
  /-- Failures since the last success or closing. -/
  failures : Nat := 0
  totalFailures : Nat := 0
  totalSuccesses : Nat := 0
  precision : Number.Precision := .exact
  deriving DecidableEq, Repr

namespace Breaker

inductive Phase where
  | closed
  | halfOpen
  | opened
  deriving DecidableEq, Repr

def Phase.name : Phase → String
  | .closed => "closed"
  | .halfOpen => "half_open"
  | .opened => "open"

def phase (now : Rat) (breaker : Breaker) : Phase :=
  match breaker.openedAt with
  | none => .closed
  | some since => if breaker.recovery ≤ breaker.precision.sub now since then .halfOpen else .opened

def isOpen (now : Rat) (breaker : Breaker) : Bool := breaker.phase now = .opened

def close (breaker : Breaker) : Breaker := { breaker with openedAt := none, failures := 0 }

/-- A failure opens the breaker when there are enough of them, or when it was on trial. -/
def fail (now : Rat) (breaker : Breaker) : Breaker :=
  let counted : Breaker :=
    { breaker with
      failures := breaker.failures + 1
      totalFailures := breaker.totalFailures + 1 }
  if counted.phase now = .halfOpen ∨ counted.threshold ≤ counted.failures then
    { counted with openedAt := some now }
  else counted

/-- A success ends a run of failures, and closes a breaker that was on trial. -/
def succeed (now : Rat) (breaker : Breaker) : Breaker :=
  let counted : Breaker := { breaker with totalSuccesses := breaker.totalSuccesses + 1 }
  if counted.phase now = .halfOpen then counted.close else { counted with failures := 0 }

end Breaker

/-! ## Counting

What a gateway counts: deliveries that worked and that did not, how long the latest ones took, and
the latest errors.
-/

structure Metrics where
  /-- How many of the latest durations are kept; all without a number. -/
  window : Option Nat := some 100
  sent : Nat := 0
  failed : Nat := 0
  /-- Milliseconds that the latest deliveries took, oldest first. -/
  latencies : List Float := []
  errors : List Json := []

namespace Metrics

def keepLast {α : Type} (count : Nat) (items : List α) : List α := items.drop (items.length - count)

def maxErrors : Nat := 10

def keepWindow (metrics : Metrics) (latencies : List Float) : List Float :=
  match metrics.window with
  | some count => keepLast count latencies
  | none => latencies

/-- Durations of zero are not kept. -/
def succeed (latency : Float) (metrics : Metrics) : Metrics :=
  { metrics with
    sent := metrics.sent + 1
    latencies :=
      if latency > 0 then metrics.keepWindow (metrics.latencies ++ [latency])
      else metrics.latencies }

/-- Errors that say nothing are not kept. -/
def fail (error : Json) (metrics : Metrics) : Metrics :=
  { metrics with
    failed := metrics.failed + 1
    errors :=
      if error.isPresent then keepLast maxErrors (metrics.errors ++ [error]) else metrics.errors }

/-- The mean of the durations that are kept, to one place. -/
def averageLatency (metrics : Metrics) : Float :=
  if metrics.latencies.isEmpty then 0
  else
    let total := metrics.latencies.foldl (· + ·) 0
    Number.roundPlaces (total / Float.ofNat metrics.latencies.length) 1

/-- The share of deliveries that failed, to four places. -/
def failureRate (metrics : Metrics) : Float :=
  let total := metrics.sent + metrics.failed
  if total = 0 then 0
  else Number.roundPlaces (Float.ofNat metrics.failed / Float.ofNat total) 4

end Metrics

/-! ## Guarded deliveries

Every delivery passes the circuit breaker of its bot and is counted; whatever goes wrong
comes back as a delivery failure. Each bot has a breaker of its own, and a message that the platform
rejects is counted but never opens one.
-/

inductive Refusal where
  | broke (cause : String)
  /-- The other side answered that it does not take the message, for now or for good. -/
  | declined (reason : String) (retryable : Bool) (botId : Option String)
  deriving DecidableEq, Repr

structure DeliveryFailure where
  message : String
  recipientId : String
  retryable : Bool := true
  botId : Option String
  deriving DecidableEq, Repr

/-- What became of a message: whether it was refused, how many seconds it took, and the state in
which it leaves its carrier. -/
structure Delivery (σ : Type) where
  refusal : Option Refusal := none
  seconds : Rat := 0
  medium : σ

/-- A carrier takes a message of a bot to a recipient. -/
abbrev Carrier (σ : Type) := Bot → (recipientId : String) → Outbound → σ → Delivery σ

structure Gateway (σ : Type) where
  name : String
  threshold : Rat := 5
  recovery : Rat := 60
  breakers : List (String × Breaker) := []
  metrics : Metrics := {}
  /-- Seconds on a clock that never goes back. -/
  clock : Rat := 0
  precision : Number.Precision := .exact
  medium : σ

namespace Gateway

variable {σ : Type}

def findBreaker (botId : String) : List (String × Breaker) → Option Breaker
  | [] => none
  | (key, breaker) :: rest => if key = botId then some breaker else findBreaker botId rest

def putBreaker (botId : String) (breaker : Breaker) :
    List (String × Breaker) → List (String × Breaker)
  | [] => [(botId, breaker)]
  | (key, old) :: rest =>
    if key = botId then (key, breaker) :: rest else (key, old) :: putBreaker botId breaker rest

def breakerOf (botId : String) (gateway : Gateway σ) : Breaker :=
  (findBreaker botId gateway.breakers).getD
    { threshold := gateway.threshold, recovery := gateway.recovery
      precision := gateway.precision }

def setBreaker (botId : String) (breaker : Breaker) (gateway : Gateway σ) : Gateway σ :=
  { gateway with breakers := putBreaker botId breaker gateway.breakers }

def judge (refusal : Option Refusal) (now : Rat) (breaker : Breaker) : Breaker :=
  match refusal with
  | none => breaker.succeed now
  | some (.broke _) => breaker.fail now
  | some (.declined _ retryable _) => if retryable then breaker.fail now else breaker

def Refusal.text : Refusal → String
  | .broke cause => cause
  | .declined reason _ _ => reason

def count (refusal : Option Refusal) (millis : Rat) (metrics : Metrics) : Metrics :=
  match refusal with
  | none => metrics.succeed (Number.ofRat millis)
  | some refusal => metrics.fail (.str (Refusal.text refusal))

def failureOf (gateway : Gateway σ) (bot : Bot) (recipientId : String) (outbound : Outbound) :
    Refusal → DeliveryFailure
  | .broke cause =>
    { message := gateway.name ++ " " ++ outbound.kind ++ " delivery failed: " ++ cause
      recipientId
      botId := some bot.id }
  | .declined reason retryable botId => { message := reason, recipientId, retryable, botId }

def blocked (gateway : Gateway σ) (bot : Bot) (recipientId : String) : DeliveryFailure where
  message := "Circuit breaker open for " ++ gateway.name ++ " (bot " ++ bot.id ++ ")"
  recipientId := recipientId
  botId := some bot.id

/-- Delivers a message unless the breaker of its bot is open. -/
def send (carry : Carrier σ) (bot : Bot) (recipientId : String) (outbound : Outbound)
    (gateway : Gateway σ) : Option DeliveryFailure × Gateway σ :=
  let breaker := gateway.breakerOf bot.id
  let gateway := gateway.setBreaker bot.id breaker
  if breaker.isOpen gateway.clock then
    (some (gateway.blocked bot recipientId),
      { gateway with metrics := gateway.metrics.fail (.str "circuit_open") })
  else
    let delivery := carry bot recipientId outbound gateway.medium
    let clock := gateway.precision.add gateway.clock delivery.seconds
    let millis := gateway.precision.mul (gateway.precision.sub clock gateway.clock) 1000
    let judged := judge delivery.refusal clock breaker
    (delivery.refusal.map (gateway.failureOf bot recipientId outbound),
      { gateway.setBreaker bot.id judged with
        metrics := count delivery.refusal millis gateway.metrics
        clock
        medium := delivery.medium })

def advance (seconds : Rat) (gateway : Gateway σ) : Gateway σ :=
  { gateway with clock := gateway.precision.add gateway.clock seconds }

end Gateway

/-! ## Reports

What a gateway reports about itself: the breaker of every bot that it has delivered for, and what it
has counted.
-/

def Breaker.report (now : Rat) (breaker : Breaker) : List (String × Json) :=
  [("state", .str (breaker.phase now).name), ("failure_count", .int breaker.failures),
    ("total_failures", .int breaker.totalFailures),
    ("total_successes", .int breaker.totalSuccesses)]

def Metrics.report (name : Json) (metrics : Metrics) : Json :=
  .obj [("gateway", name), ("sent", .int metrics.sent), ("failed", .int metrics.failed),
    ("avg_latency_ms", .float metrics.averageLatency),
    ("failure_rate", .float metrics.failureRate),
    ("recent_errors", .arr metrics.errors)]

def Gateway.report {σ : Type} (gateway : Gateway σ) : Json :=
  let breaker (entry : String × Breaker) : String × Json :=
    (entry.1, .obj (entry.2.report gateway.clock))
  .obj [("gateway", .str gateway.name), ("circuit_breakers", .obj (gateway.breakers.map breaker)),
    ("metrics", gateway.metrics.report (.str gateway.name))]

end Parley
