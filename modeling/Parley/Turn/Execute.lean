import Parley.Gateway.Guard
import Parley.Record.TurnResult
import Parley.Turn.Bookkeeping
import Parley.Turn.Resolve
import Parley.Turn.Sessions

/-!
One turn: what happens when a sender writes to a bot. The message resumes the question on which the
session is parked, or starts a block or a flow. What that plans is sent and waited for, whether or
not it arrives, and then the session is saved once. A turn that fails leaves the session as it was
and says so to the sender.
-/

namespace Parley

structure Nap where
  seconds : Float
  /-- Whether it is as long as is allowed, and should have been longer. -/
  cut : Bool := false
  deriving DecidableEq, Repr

structure Call where
  bot : Bot
  recipientId : String
  outbound : Outbound
  failure : Option DeliveryFailure := none

structure World (σ : Type) where
  storage : Storage
  gateway : Gateway σ
  sleeps : List Nap := []
  calls : List Call := []

abbrev WorldM (σ : Type) := StateM (World σ)

abbrev TurnM (σ : Type) := ExceptT Failure (WorldM σ)

namespace Turn

variable {σ : Type}

def onStorage {α : Type} (action : StateM Storage α) : WorldM σ α := do
  let world ← get
  let (value, storage) := action.run world.storage
  set { world with storage }
  return value

def onStore {α : Type} (action : StoreM α) : TurnM σ α := onStorage (σ := σ) action.run

/-! ### Effects -/

def deliver (carry : Carrier σ) (bot : Bot) (recipientId : String) (outbound : Outbound) :
    WorldM σ (Option DeliveryFailure) := do
  let world ← get
  let (failure, gateway) := world.gateway.send carry bot recipientId outbound
  let call : Call := { bot, recipientId, outbound, failure }
  set { world with gateway, calls := world.calls ++ [call] }
  return failure

def send (carry : Carrier σ) (bot : Bot) (recipientId : String) (message : Message) :
    WorldM σ Bool := do
  match ← deliver carry bot recipientId (.message message) with
  | some _ => return false
  | none => do
    let _ ← onStorage
      (Bookkeeping.log bot.id recipientId message.logText .outgoing message.logType false)
    return true

def clamp (limit seconds : Float) : Float :=
  let capped := if limit < seconds then limit else seconds
  if 0 < capped then capped else 0

def sleep (nap : Nap) : WorldM σ Unit :=
  modify fun world => { world with sleeps := world.sleeps ++ [nap] }

def showTyping (carry : Carrier σ) (bot : Bot) (recipientId : String) (pause : Pause) (on : Bool) :
    WorldM σ Unit := do
  if pause.showTyping then
    let _ ← deliver carry bot recipientId (.typing on)

def napFor (options : Options) (pause : Pause) : Nap :=
  let limit := options.maxDelaySeconds
  { seconds := clamp limit pause.seconds, cut := 0 < limit && limit < pause.seconds }

def makePause (options : Options) (pause : Pause) : WorldM σ Unit := sleep (napFor options pause)

def perform (carry : Carrier σ) (options : Options) (bot : Bot) (recipientId : String) :
    Effect → WorldM σ Nat
  | .send message => return if ← send carry bot recipientId message then 1 else 0
  | .wait pause => do
    showTyping carry bot recipientId pause true
    makePause options pause
    showTyping carry bot recipientId pause false
    return 0

def performAll (carry : Carrier σ) (options : Options) (bot : Bot) (recipientId : String) :
    List Effect → WorldM σ Nat
  | [] => return 0
  | effect :: rest => do
    let first ← perform carry options bot recipientId effect
    return first + (← performAll carry options bot recipientId rest)

/-! ### The turn -/

structure Incoming where
  senderId : String
  text : String
  profile : Storage.Profile := {}
  deriving DecidableEq, Repr

structure Start where
  mode : Session.Mode
  transition : Transition
  context : Context
  deriving DecidableEq, Repr

def interrupts (options : Options) (text : String) : Bool :=
  let normal := Trigger.normalize text
  !normal.isEmpty && options.interrupts.any fun keyword => Trigger.normalize keyword = normal

def keepBooks (bot : Bot) (incoming : Incoming) : StateM Storage Unit := do
  let visit ← Bookkeeping.track bot.id incoming.senderId incoming.profile
  let newUser := (visit.map (·.firstToday)).getD false
  let _ ← Bookkeeping.log bot.id incoming.senderId incoming.text .incoming "text" newUser

def receive (bot : Bot) (incoming : Incoming) : StoreM Session := do
  let session ← Session.getOrCreate bot.id incoming.senderId
  keepBooks bot incoming
  return session

def begin (context : Context) : Target → Except Failure Start
  | .block block => .ok { mode := .block, transition := block.begin, context }
  | .flow flow => do return { mode := .graph, transition := ← flow.begin, context }

def resumeOutside (session : Session) (text : String) (context : Context) :
    StoreM (Option (Transition × Context)) :=
  if session.inGraph then session.resumeFlow text context else return none

/-- The start of a turn whose message asks for nothing and answers nothing. -/
def startUnasked (options : Options) (session : Session) (text : String) (context : Context) :
    StoreM Start := do
  match ← Resolution.fallback options session text with
  | some resolution => Storage.ofExcept (begin context resolution.target)
  | none => throw (.nothingToRun session.botId session.senderId)

def startOutside (options : Options) (session : Session) (text : String) (context : Context) :
    StoreM Start := do
  match ← Resolution.explicit session text with
  | some resolution => Storage.ofExcept (begin context resolution.target)
  | none =>
    match ← resumeOutside session text context with
    | some (transition, context) => return { mode := .graph, transition, context }
    | none => startUnasked options session text context

/-- The start of a turn: the question that the session is parked on comes first, and a pointer to
content that is gone counts as none. -/
def start (options : Options) (session : Session) (text : String) (context : Context) :
    StoreM Start := do
  if session.inBlock then
    match ← Storage.ofExcept (session.resumeBlock (← get).findBlock text context) with
    | some (transition, context) => return { mode := .block, transition, context }
    | none => startOutside options session.outside text context
  else startOutside options session text context

def planFrom (options : Options) (storage : Storage) (start : Start) : Plan :=
  let budget : Budget := { limit := options.maxSteps, limitText := options.maxStepsText }
  Plan.run storage.findBlock start.context budget start.transition

def park (session : Session) (start : Start) (plan : Plan) : StoreM Session :=
  match plan.ending with
  | .failed failure => throw failure
  | .parked cursor => session.commit start.mode (some cursor) start.context
  | .finished => session.commit start.mode none start.context

def settle (session : Session) (start : Start) (plan : Plan) (sent : Nat) : StoreM TurnResult := do
  let _ ← park session start plan
  return { success := true, handledBy := start.mode.name, messagesSent := sent }

def conclude (session : Session) (start : Start) (plan : Plan) (sent : Nat) :
    TurnM σ TurnResult := onStore (settle session start plan sent)

def finish (carry : Carrier σ) (options : Options) (bot : Bot) (session : Session) (start : Start)
    (plan : Plan) : TurnM σ TurnResult := do
  conclude session start plan (← performAll carry options bot session.senderId plan.effects)

def heed (options : Options) (text : String) (session : Session) : StoreM Session :=
  if interrupts options text then session.forget else return session

/-- The session of an incoming message, and where the turn starts. -/
def ready (options : Options) (bot : Bot) (incoming : Incoming) : StoreM (Session × Start) := do
  let session ← receive bot incoming
  let session ← heed options incoming.text session
  return (session, ← start options session incoming.text session.context)

def prepare (options : Options) (bot : Bot) (incoming : Incoming) :
    TurnM σ (Session × Start) := onStore (ready options bot incoming)

def attempt (carry : Carrier σ) (options : Options) (bot : Bot) (incoming : Incoming) :
    TurnM σ TurnResult := do
  let (session, start) ← prepare options bot incoming
  finish carry options bot session start (planFrom options (← get).storage start)

/-- Says a value. What is no text is shown as it is, and not logged. -/
def say (carry : Carrier σ) (bot : Bot) (recipientId : String) : Json → WorldM σ Unit
  | .str text => do let _ ← send carry bot recipientId (.text text)
  | said => do let _ ← deliver carry bot recipientId (.value .text said)

def reply (carry : Carrier σ) (bot : Bot) (recipientId : String) (said : Json) :
    WorldM σ Unit := do
  if said.isPresent then say carry bot recipientId said

def answerTo (options : Options) (failure : Failure) : Json :=
  if failure.isConfiguration then options.notConfigured else options.apology

/-- A turn always has a result. -/
def execute (carry : Carrier σ) (options : Options) (bot : Bot) (incoming : Incoming) :
    WorldM σ TurnResult := do
  match ← (attempt carry options bot incoming).run with
  | .ok result => return result
  | .error failure => do
    reply carry bot incoming.senderId (answerTo options failure)
    return { success := false, error := some failure.message }

end Turn

end Parley
