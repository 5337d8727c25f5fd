import Parley.Dispatch.Clock
import Parley.Dispatch.Mailbox

/-!
The dispatcher: one worker per session that takes the jobs of the session from a mailbox, one after
the other. A worker that finds nothing to do for some time goes away; the next job of the session
gets a new one.

Workers and the script that drives them take turns in rounds, in the order in which they are woken;
those who are woken in one round have their turns in the next. Time passes only when nobody is awake,
and alarms go off between two rounds. Whoever is stopped notices it the next time it is awake: a worker
that has not begun never begins, one that waits or runs a job goes away, and one that a job has
already been handed to runs that first. A worker that waits for ever has its mailbox at hand: it takes
a job and begins it in one turn, and does not when it was stopped.
-/

namespace Parley.Dispatcher

inductive Patience where
  | seconds (time : Rat)
  | endless
  /-- Nobody can say; a worker that is to wait breaks down. -/
  | unknown
  deriving DecidableEq, Repr

structure Limits where
  mailboxSize : Int := 100
  patience : Patience := .seconds 300
  deriving DecidableEq, Repr

/-- A job that takes some time, and fails at the end if it crashes. -/
structure Assignment where
  key : SessionKey
  /-- How long it takes; nothing if it ends in the turn in which it begins. -/
  duration : Option Rat := none
  crashes : Bool := false
  startedAt : Option Rat := none
  endedAt : Option Rat := none
  outcome : Option (Outcome Nat) := none
  deriving DecidableEq, Repr

inductive Token where
  | script
  | worker (id : Nat)
  | bell (serial : Nat)
  /-- Word has come that every job has ended. -/
  | report
  deriving DecidableEq, Repr

/-- When somebody wakes by themselves; of two at the same time the one set first comes first. -/
structure Alarm where
  due : Rat
  serial : Nat
  ringing : Bool := false
  deriving DecidableEq, Repr

inductive Phase where
  | created
  /-- It was stopped before it began. -/
  | stillborn
  | looking
  | waiting
  /-- A job has come while it waited. -/
  | handed
  | took (job : Nat)
  | ready (job : Nat)
  | running (job : Nat)
  /-- It was stopped in the middle of a job. -/
  | aborting (job : Nat)
  /-- Its time is up; after some more turns it looks whether it can go. -/
  | expiring (turns : Nat)
  /-- It was stopped while it waited. -/
  | closing
  | dead
  deriving DecidableEq, Repr

structure Worker where
  id : Nat
  key : SessionKey
  mailbox : Mailbox Nat
  phase : Phase := .created
  alarm : Option Alarm := none
  /-- Whether it was stopped when it was about to look. -/
  stopped : Bool := false
  deriving DecidableEq, Repr

inductive Action where
  | submit (assignment : Assignment)
  | sleep (seconds : Rat)
  | stop
  | join
  deriving DecidableEq, Repr

inductive Blocked where
  | nothing
  | time
  | room (worker job : Nat) (woken : Bool)
  | jobs
  | workers
  deriving DecidableEq, Repr

structure State where
  limits : Limits
  clock : Clock := {}
  serial : Nat := 0
  /-- Who has a turn in this round, in the order of waking. -/
  awake : List Token := [.script]
  /-- Who has a turn in the next round. -/
  upcoming : List Token := []
  workers : List Worker := []
  assignments : List Assignment := []
  rest : List Action
  blocked : Blocked := .nothing
  alarm : Option Alarm := none
  begun : List Nat := []
  /-- Time and number of workers after each action of the script. -/
  trace : List (Rat × Nat) := []
  deriving DecidableEq, Repr

namespace State

def now (state : State) : Rat := state.clock.now

def wake (token : Token) (state : State) : State :=
  { state with upcoming := state.upcoming ++ [token] }

def changeWorker (id : Nat) (change : Worker → Worker) (state : State) : State :=
  { state with
    workers := state.workers.map fun worker => if worker.id = id then change worker else worker }

def setPhase (id : Nat) (phase : Phase) (state : State) : State :=
  state.changeWorker id fun worker => { worker with phase, alarm := none }

def changeJob (job : Nat) (change : Assignment → Assignment) (state : State) : State :=
  { state with assignments := state.assignments.modify job change }

def alarmIn (seconds : Rat) (state : State) : Alarm × State :=
  ({ due := state.clock.due seconds, serial := state.serial },
    { state with serial := state.serial + 1 })

def joinTimeout : Rat := 100

def allSettled (state : State) : Bool := state.assignments.all (·.outcome.isSome)

def allGone (state : State) : Bool := state.workers.all (·.phase = .dead)

def durationOf (job : Nat) (state : State) : Option Rat :=
  (state.assignments[job]?).bind Assignment.duration

def isOpen (job : Nat) (state : State) : Bool :=
  (state.assignments[job]?).any (·.outcome.isNone)

/-- Ends a job, and sends word to the script if it waited for that. -/
def settle (job : Nat) (outcome : Outcome Nat) (state : State) : State :=
  let isLast := state.isOpen job
  let state := state.changeJob job fun assignment =>
    { assignment with outcome := outcome.settle assignment.outcome }
  if isLast && state.blocked = .jobs && state.allSettled then state.wake .report else state

def noteGone (state : State) : State :=
  if state.blocked = .workers && state.allGone then state.wake .script else state

/-! ### Workers -/

def noteRoom (id : Nat) (state : State) : State :=
  match state.blocked with
  | .room worker job false =>
    if worker = id then { state with blocked := .room worker job true }.wake .script else state
  | _ => state

/-- A worker goes away; the jobs left in its mailbox are cancelled. Whoever waited for room in it puts
a job in that nobody will take. -/
def exit (worker : Worker) (state : State) : State :=
  let state := { state with workers := state.workers.filter (·.id ≠ worker.id) }.noteRoom worker.id
  (worker.mailbox.queue.foldl (fun state job => state.settle job .cancelled) state).noteGone

def takeOrWait (worker : Worker) (state : State) : State :=
  match worker.mailbox.take? with
  | some (job, mailbox) =>
    let taken : Worker :=
      { worker with mailbox, phase := .took job, alarm := none, stopped := false }
    ((state.changeWorker worker.id fun _ => taken).noteRoom worker.id).wake (.worker worker.id)
  | none =>
    if worker.stopped then state.exit worker
    else state.changeWorker worker.id fun worker => { worker with phase := .waiting }

def openJob (job : Nat) (state : State) : State :=
  let state := state.changeJob job fun assignment => { assignment with startedAt := some state.now }
  { state with begun := state.begun ++ [job] }

/-- A worker runs a job; one that takes no time ends when its worker is awake again. -/
def runFor (id job : Nat) (duration : Rat) (state : State) : State :=
  let state := (state.openJob job).setPhase id (.running job)
  if duration ≤ 0 then state.wake (.worker id)
  else
    let (alarm, state) := state.alarmIn duration
    state.changeWorker id fun worker => { worker with alarm }

/-- A worker that waits for ever looks into its mailbox in this very turn, and runs a job that it
finds there. -/
def lookAtOnce (worker : Worker) (state : State) : State :=
  match worker.mailbox.take? with
  | some (job, mailbox) =>
    let taken : Worker := { worker with mailbox, phase := .ready job }
    let state := (state.changeWorker worker.id fun _ => taken).noteRoom worker.id
    match state.durationOf job with
    | some duration => state.runFor worker.id job duration
    | none => state.wake (.worker worker.id)
  | none => state.changeWorker worker.id fun worker => { worker with phase := .waiting }

/-- A worker turns to its mailbox. If it may not wait it is turned away at once. -/
def look (worker : Worker) (state : State) : State :=
  let id := worker.id
  match state.limits.patience with
  | .endless => state.lookAtOnce worker
  | .unknown => state.exit worker
  | .seconds time =>
    if time ≤ 0 then (state.setPhase id (.expiring 2)).wake (.worker id)
    else
      let (alarm, state) := state.alarmIn time
      (state.changeWorker id fun worker => { worker with phase := .looking, alarm }).wake
        (.worker id)

def outcomeOf (job : Nat) (assignment : Assignment) : Outcome Nat :=
  if assignment.crashes then .failed ("turn " ++ toString job ++ " crashed") else .resolved job

def complete (job : Nat) (state : State) : State :=
  let state := state.changeJob job fun assignment => { assignment with endedAt := some state.now }
  match state.assignments[job]? with
  | some assignment => state.settle job (outcomeOf job assignment)
  | none => state

def finish (worker : Worker) (job : Nat) (state : State) : State :=
  let mailbox := worker.mailbox.done?.getD worker.mailbox
  let state := state.changeWorker worker.id fun worker => { worker with mailbox }
  (state.complete job).look { worker with mailbox }

def start (worker : Worker) (job : Nat) (state : State) : State :=
  match state.durationOf job with
  | some duration => state.runFor worker.id job duration
  | none => (state.openJob job).finish worker job

def workerTurn (worker : Worker) (state : State) : State :=
  let id := worker.id
  match worker.phase with
  | .created => state.look worker
  | .stillborn => (state.setPhase id .dead).noteGone
  | .looking => state.takeOrWait worker
  | .handed =>
    if state.limits.patience = .endless then state.lookAtOnce worker else state.takeOrWait worker
  | .took job => (state.setPhase id (.ready job)).wake (.worker id)
  | .ready job => state.start worker job
  | .running job => state.finish worker job
  | .aborting job => (state.settle job .cancelled).exit worker
  | .expiring (turns + 1) => (state.setPhase id (.expiring turns)).wake (.worker id)
  | .expiring 0 => if worker.mailbox.queue.isEmpty then state.exit worker else state.look worker
  | .closing => state.exit worker
  | .waiting => state
  | .dead => state

def stopWorker (worker : Worker) (state : State) : State :=
  let id := worker.id
  match worker.phase with
  | .created => state.setPhase id .stillborn
  | .looking => state.changeWorker id fun worker => { worker with stopped := true }
  | .waiting => (state.setPhase id .closing).wake (.worker id)
  | .handed => if state.limits.patience = .endless then state.setPhase id .closing else state
  | .running job =>
    let aborted := state.setPhase id (.aborting job)
    if worker.alarm.isSome then aborted.wake (.worker id) else aborted
  | .expiring _ => state.setPhase id .closing
  | _ => state

/-! ### The script -/

def record (state : State) : State :=
  { state with trace := state.trace ++ [(state.now, state.workers.length)] }

def deliver (worker : Worker) (job : Nat) (state : State) : State :=
  let mailbox := worker.mailbox.push job
  if worker.phase = .waiting then
    (state.changeWorker worker.id fun worker =>
      { worker with mailbox, phase := .handed, alarm := none }).wake (.worker worker.id)
  else state.changeWorker worker.id fun worker => { worker with mailbox }

/-- Puts a job into a mailbox unless that is full; says whether the script can go on. -/
def tryDeliver (worker : Worker) (job : Nat) (state : State) : Bool × State :=
  if worker.mailbox.isFull then (false, { state with blocked := .room worker.id job false })
  else (true, { state.deliver worker job with blocked := .nothing })

def workerFor (key : SessionKey) (state : State) : Worker × State :=
  match state.workers.find? (·.key = key) with
  | some worker => (worker, state)
  | none =>
    let worker : Worker :=
      { id := state.serial, key, mailbox := { capacity := state.limits.mailboxSize } }
    (worker, { state with
      serial := state.serial + 1
      workers := state.workers ++ [worker] }.wake (.worker worker.id))

/-- Begins an action; says whether it is over. -/
def begin (action : Action) (state : State) : Bool × State :=
  match action with
  | .submit assignment =>
    let job := state.assignments.length
    let state := { state with assignments := state.assignments ++ [assignment] }
    let (worker, state) := state.workerFor assignment.key
    state.tryDeliver worker job
  | .sleep seconds =>
    if seconds ≤ 0 then (false, { state with blocked := .time }.wake .script)
    else
      let (alarm, state) := state.alarmIn seconds
      (false, { state with blocked := .time, alarm := some alarm })
  | .stop =>
    if state.workers.isEmpty then (true, state)
    else
      (false, { state.workers.foldl (fun state worker => state.stopWorker worker) state with
        blocked := .workers })
  | .join =>
    if state.assignments.isEmpty then (true, state)
    else if state.allSettled then (false, { state with blocked := .jobs }.wake .report)
    else
      let (alarm, state) := state.alarmIn joinTimeout
      (false, { state with blocked := .jobs, alarm := some alarm })

def runActions : List Action → State → State
  | [], state => { state with rest := [] }
  | action :: rest, state =>
    match state.begin action with
    | (true, state) => runActions rest state.record
    | (false, state) => { state with rest }

def goOn (state : State) : State :=
  let state := { state with blocked := .nothing, alarm := none }
  runActions state.rest state.record

def scriptTurn (state : State) : State :=
  match state.blocked with
  | .nothing => runActions state.rest state
  | .time => state.goOn
  | .jobs => state.goOn
  | .workers => { state with workers := [] }.goOn
  | .room id job _ =>
    match state.workers.find? (·.id = id) with
    | none => state.goOn
    | some worker =>
      match state.tryDeliver worker job with
      | (true, state) => state.goOn
      | (false, state) => state

/-! ### Time -/

def alarms (state : State) : List Alarm :=
  (state.alarm.toList ++ state.workers.filterMap (·.alarm)).filter (!·.ringing)

def earliest? : List Alarm → Option Rat
  | [] => none
  | alarm :: rest =>
    match earliest? rest with
    | some due => some (if alarm.due ≤ due then alarm.due else due)
    | none => some alarm.due

def Alarm.rung (serials : List Nat) (alarm : Alarm) : Alarm :=
  if serials.contains alarm.serial then { alarm with ringing := true } else alarm

def ring (state : State) : State :=
  let ringing := (state.alarms.filter (state.clock.isDue ·.due)).mergeSort fun a b =>
    a.due < b.due || (a.due = b.due && a.serial ≤ b.serial)
  let serials := ringing.map (·.serial)
  { state with
    upcoming := state.upcoming ++ serials.map .bell
    alarm := state.alarm.map (Alarm.rung serials)
    workers := state.workers.map fun worker =>
      { worker with alarm := worker.alarm.map (Alarm.rung serials) } }

def passTime (state : State) : State :=
  match earliest? state.alarms with
  | some due => { state with clock := state.clock.passTo due }
  | none => state

/-- A round begins: when nobody was woken in the last one, time passes. -/
def nextRound (state : State) : State :=
  let state := (if state.upcoming.isEmpty then state.passTime else state).ring
  { state with awake := state.upcoming, upcoming := [] }

/-- Whoever has set an alarm wakes when it goes off; a worker that has waited till then gives up. -/
def answerBell (serial : Nat) (state : State) : State :=
  if state.alarm.any (·.serial = serial) then
    { state with alarm := none, blocked := .time }.wake .script
  else
    match state.workers.find? (·.alarm.any (·.serial = serial)) with
    | some worker =>
      (state.setPhase worker.id
        (if worker.phase = .waiting then .expiring 3 else worker.phase)).wake (.worker worker.id)
    | none => state

def answerReport (state : State) : State :=
  if state.blocked = .jobs then { state with alarm := none, blocked := .time }.wake .script
  else state

/-- The next one awake takes a turn, or the next round begins. -/
def turn (state : State) : State :=
  match state.awake with
  | [] => state.nextRound
  | token :: awake =>
    let state := { state with awake }
    match token with
    | .script => state.scriptTurn
    | .bell serial => state.answerBell serial
    | .report => state.answerReport
    | .worker id =>
      match state.workers.find? (·.id = id) with
      | some worker => state.workerTurn worker
      | none => state

def isOver (state : State) : Bool := state.rest.isEmpty && state.blocked = .nothing

def run : Nat → State → State
  | 0, state => state
  | turns + 1, state => if state.isOver then state else run turns state.turn

end State

/-- More turns than a script of this length needs: each job, action and worker takes a few. -/
def turnsFor (script : List Action) : Nat := 128 * (script.length + 1)

def runScript (limits : Limits) (script : List Action) (clock : Clock := {}) : State :=
  State.run (turnsFor script) { limits, clock, rest := script }

end Parley.Dispatcher
