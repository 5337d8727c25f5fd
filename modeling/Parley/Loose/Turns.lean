import Parley.Loose.Counters
import Parley.Loose.World

/-!
Deliveries and turns under settings of any kind. One that cannot be used is noticed where it is first
needed: the limit of steps at the first step, that of pauses at a pause, and the limits of a breaker
at a delivery. A turn fails there, and telling the sender may fail in the same way.
-/

namespace Parley.Loose

variable {σ α : Type}

structure Obstacles where
  maxSteps : Option String := none
  maxDelay : Option String := none
  threshold : Option String := none
  recovery : Option String := none
  deriving DecidableEq, Repr

namespace Obstacles

def isNumber : Json → Bool
  | .bool _ => true
  | .int _ => true
  | .float _ => true
  | _ => false

def ofSetting (settings : Json) (name : String) (complaint : (kind : String) → String) :
    Option String :=
  ((settings.get? name).filter (!isNumber ·)).map fun value => complaint (kindName value)

def read (options limits : Json) : Obstacles where
  maxSteps := ofSetting options "max_steps" (incomparable ">" "int")
  maxDelay := ofSetting options "max_delay_seconds" (incomparable "<" · "float")
  threshold := ofSetting limits "failure_threshold" (incomparable ">=" "int")
  recovery := ofSetting limits "recovery_timeout" (incomparable ">=" "float")

end Obstacles

inductive Mishap where
  | failed (failure : Failure)
  | hindered (complaint : String)

def Mishap.message : Mishap → String
  | .failed failure => failure.message
  | .hindered complaint => complaint

abbrev Hindered (σ : Type) := ExceptT Mishap (WorldM σ)

def meet : Option String → Hindered σ Unit
  | some complaint => throw (.hindered complaint)
  | none => return ()

/-! ### Deliveries -/

/-- What delivers one thing for a bot. An opened breaker needs its time of recovery first. A failure
is counted by the breaker, and where there is no threshold for that to be compared with, by nothing
else. -/
def guarded (obstacles : Obstacles) (bot : Bot) (delivery : WorldM σ α) : Hindered σ α := do
  let before := (← get).gateway
  let breaker := before.breakerOf bot.id
  if breaker.openedAt.isSome then meet obstacles.recovery
  let answer ← delivery
  let failures := ((← get).gateway.breakerOf bot.id).totalFailures
  if obstacles.threshold.isSome && breaker.totalFailures < failures then
    modify fun world => { world with gateway := { world.gateway with metrics := before.metrics } }
    meet obstacles.threshold
  return answer

def send (carry : Carrier σ) (obstacles : Obstacles) (bot : Bot) (recipientId : String)
    (outbound : Outbound) : Act σ Unit := do
  match ← (guarded obstacles bot (Turn.deliver carry bot recipientId outbound)).run with
  | .ok none => return ()
  | .ok (some failure) => throw (.undelivered failure)
  | .error _ => throw .mistyped

/-! ### Turns -/

def showTyping (carry : Carrier σ) (obstacles : Obstacles) (bot : Bot) (recipientId : String)
    (pause : Pause) (on : Bool) : Hindered σ Unit := do
  if pause.showTyping then
    guarded obstacles bot (Turn.showTyping carry bot recipientId pause on)

def perform (carry : Carrier σ) (options : Options) (obstacles : Obstacles) (bot : Bot)
    (recipientId : String) : Effect → Hindered σ Nat
  | .send message => do
    let delivered ← guarded obstacles bot (Turn.send carry bot recipientId message)
    return if delivered then 1 else 0
  | .wait pause => do
    meet obstacles.maxDelay
    showTyping carry obstacles bot recipientId pause true
    (Turn.makePause options pause : WorldM σ Unit)
    showTyping carry obstacles bot recipientId pause false
    return 0

def performAll (carry : Carrier σ) (options : Options) (obstacles : Obstacles) (bot : Bot)
    (recipientId : String) : List Effect → Hindered σ Nat
  | [] => return 0
  | effect :: rest => do
    let first ← perform carry options obstacles bot recipientId effect
    return first + (← performAll carry options obstacles bot recipientId rest)

def attempt (carry : Carrier σ) (options : Options) (obstacles : Obstacles) (bot : Bot)
    (incoming : Turn.Incoming) : Hindered σ TurnResult := do
  let (session, start) ← (Turn.prepare options bot incoming).adapt .failed
  if start.transition matches .goto _ then meet obstacles.maxSteps
  let plan := Turn.planFrom options (← get).storage start
  let sent ← performAll carry options obstacles bot session.senderId plan.effects
  (Turn.conclude session start plan sent).adapt .failed

def reply (carry : Carrier σ) (obstacles : Obstacles) (bot : Bot) (recipientId : String)
    (said : Json) : Act σ Unit := do
  if said.isPresent then
    match ← (guarded obstacles bot (Turn.reply carry bot recipientId said)).run with
    | .ok () => return ()
    | .error _ => throw .mistyped

def execute (carry : Carrier σ) (options : Options) (obstacles : Obstacles) (bot : Bot)
    (incoming : Turn.Incoming) : Act σ TurnResult := do
  match ← (attempt carry options obstacles bot incoming).run with
  | .ok result => return result
  | .error mishap => do
    reply carry obstacles bot incoming.senderId <| match mishap with
      | .failed failure => Turn.answerTo options failure
      | .hindered _ => options.apology
    return { success := false, error := some mishap.message }

/-- A turn whose message is no text: the sender is recorded, but nothing can be made of the message. -/
def refuse (carry : Carrier σ) (options : Options) (obstacles : Obstacles) (bot : Bot)
    (senderId : String) (profile : Storage.Profile) (message : Json) : Act σ TurnResult := do
  let received ← tend (Session.getOrCreate bot.id senderId).run
  let error ← match received with
    | .ok _ => do
      let _ ← tend (Bookkeeping.track bot.id senderId profile)
      pure (inability message "strip")
    | .error failure => pure failure.message
  reply carry obstacles bot senderId options.apology
  return { success := false, error := some error }

def turn (carry : Carrier σ) (options : Options) (obstacles : Obstacles) (bot : Bot)
    (senderId : String) (message given : Json) : Act σ TurnResult :=
  withProfile bot.id senderId given fun profile =>
    match textOr .mistyped message with
    | .error _ => refuse carry options obstacles bot senderId profile message
    | .ok text =>
      let incoming : Turn.Incoming := { senderId, text, profile }
      if obstacles = {} then Turn.execute carry options bot incoming
      else execute carry options obstacles bot incoming

end Parley.Loose
