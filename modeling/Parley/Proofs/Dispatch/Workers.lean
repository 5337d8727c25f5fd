import Parley.Proofs.Dispatch.Parts
import Parley.Proofs.Dispatch.Soundness

/-!
Turns of workers, and how much is left for them to do.
-/

/-! ## Effort

Each turn, and each alarm that goes off, takes something away from what is left to do.
-/

namespace Parley.Dispatcher

/-- An alarm goes off, and its bell has a turn. -/
def Alarm.weight (alarm : Alarm) : Nat := if alarm.ringing then 1 else 2

/-- What a worker still does at most without another job, apart from answering its alarm. -/
def Phase.weight (idle : Bool) : Phase → Nat
  | .created | .running _ => 6
  | .looking | .waiting | .handed => 3
  | .took _ => 9
  | .ready _ => 8
  | .expiring turns => turns + if idle then 0 else 6
  | _ => 0

def Worker.weight (worker : Worker) : Nat :=
  worker.phase.weight worker.mailbox.queue.isEmpty + 7 * worker.mailbox.queue.length +
    worker.alarm.elim 0 Alarm.weight

def Blocked.weight : Blocked → Nat
  | .room _ _ woken => if woken then 14 else 15
  | .jobs => 1
  | _ => 0

def Action.weight : Action → Nat
  | .submit _ => 24
  | .sleep _ => 3
  | .join => 4
  | .stop => 0

/-- Word that all jobs have ended is sent once. -/
def unsettled (assignments : List Assignment) : Nat :=
  if assignments.all (·.outcome.isSome) then 0 else 1

def State.load (state : State) : Nat :=
  state.tokens.length + (state.workers.map Worker.weight).sum + state.alarm.elim 0 Alarm.weight +
    state.blocked.weight + unsettled state.assignments

def State.effort (state : State) : Nat := state.load + (state.rest.map Action.weight).sum

theorem unsettled_le (assignments : List Assignment) : unsettled assignments ≤ 1 := by
  unfold unsettled
  split <;> omega

theorem weight_replace {workers : List Worker} {worker : Worker} (member : worker ∈ workers)
    (ids : (workers.map (·.id)).Nodup) (changed : Worker) :
    ((workers.map fun other => if other.id = worker.id then changed else other).map
        Worker.weight).sum + worker.weight =
      (workers.map Worker.weight).sum + changed.weight := by
  induction workers with
  | nil => cases member
  | cons first rest ih =>
    obtain ⟨fresh, ids⟩ := List.nodup_cons.mp ids
    simp only [List.map_cons, List.sum_cons]
    by_cases same : first.id = worker.id
    · have away : ∀ other ∈ rest, other.id ≠ worker.id := fun other inside equal =>
        fresh (List.mem_map.mpr ⟨other, inside, equal.trans same.symm⟩)
      have first_eq : worker = first :=
        (List.mem_cons.mp member).resolve_right fun inside => away worker inside rfl
      have still : (rest.map fun other => if other.id = worker.id then changed else other) = rest :=
        (List.map_congr_left fun other inside => if_neg (away other inside)).trans (List.map_id' rest)
      rw [if_pos same, still, first_eq]
      omega
    · have inside : worker ∈ rest :=
        (List.mem_cons.mp member).resolve_left fun equal => same (congrArg Worker.id equal.symm)
      have := ih inside ids
      rw [if_neg same]
      omega

theorem Replaces.load {calls more : List Rat} {worker changed : Worker} {gone woken : List Token}
    {state after : State} (replaces : Replaces calls more worker changed gone woken state after)
    (ids : (state.workers.map (·.id)).Nodup) :
    after.load + (gone.length + worker.weight + state.blocked.weight + unsettled state.assignments) =
      state.load +
        (woken.length + changed.weight + after.blocked.weight + unsettled after.assignments) := by
  obtain ⟨rest, before, now⟩ := replaces.tokens
  have weights := weight_replace replaces.member ids changed
  rw [← replaces.workers] at weights
  rw [State.load, State.load, before, now, replaces.alarm, List.length_append, List.length_append]
  omega

/-- Somebody has taken a turn that was not the script's. -/
structure Advances (calls : List Rat) (state after : State) : Prop where
  sound : Sound calls after
  load : after.load < state.load
  rest : after.rest = state.rest
  trace : after.trace = state.trace
  clock : after.clock = state.clock
  alarm : after.alarm = state.alarm
  asked : after.assignments.map Assignment.asked = state.assignments.map Assignment.asked
  blocked : after.blocked = state.blocked ∨
    ∃ id job, state.blocked = .room id job false ∧ after.blocked = .room id job true
  scripts : after.tokens.count .script + state.blocked.summons =
    state.tokens.count .script + after.blocked.summons
  report : state.blocked = .jobs → .report ∈ state.tokens → .report ∈ after.tokens

/-! ## Turns of workers

Each turn leaves a sound state sound.
-/

variable {calls : List Rat} {state : State} {worker : Worker} {awake : List Token}

structure HasTurn (state : State) (worker : Worker) (awake : List Token) : Prop where
  awake : state.awake = .worker worker.id :: awake
  member : worker ∈ state.workers
  once : state.tokens.count (.worker worker.id) = 1

namespace HasTurn

theorem tokens (turn : HasTurn state worker awake) :
    state.tokens = [.worker worker.id] ++ (awake ++ state.upcoming) := by
  rw [State.tokens, turn.awake]
  rfl

theorem not_mem (turn : HasTurn state worker awake) :
    Token.worker worker.id ∉ awake ++ state.upcoming := by
  have once := turn.once
  rw [turn.tokens, List.singleton_append, List.count_cons_self] at once
  exact List.count_eq_zero.mp (by omega)

theorem not_woken (turn : HasTurn state worker awake) (sound : Sound calls state) {job : Nat} :
    state.blocked ≠ .room worker.id job true := by
  intro blocked
  obtain ⟨other, member, same, kept⟩ := sound.room _ _ _ blocked
  obtain ⟨-, -, order⟩ := kept.free rfl
  have once := turn.once
  rw [turn.tokens] at once order
  rw [same] at order
  exact not_first_of_sublist order nofun once

end HasTurn

/-- In its turn a worker turns to something else, with the same jobs in its mailbox. -/
structure Proceeds (calls : List Rat) (worker changed : Worker) (awake woken : List Token)
    (state after : State) : Prop where
  id : changed.id = worker.id
  key : changed.key = worker.key
  capacity : changed.mailbox.capacity = worker.mailbox.capacity
  queue : changed.mailbox.queue = worker.mailbox.queue
  unstopped : changed.stopped = worker.stopped
  workers : after.workers = state.workers.map fun other =>
    if other.id = worker.id then changed else other
  limits : after.limits = state.limits
  clock : after.clock = state.clock
  alarm : after.alarm = state.alarm
  blocked : after.blocked = state.blocked
  rest : after.rest = state.rest
  trace : after.trace = state.trace
  serial : state.serial ≤ after.serial
  edits : Edits worker.key state.now state.assignments calls after.assignments calls
  tokens : after.tokens = awake ++ state.upcoming ++ woken
  wakes : ∀ token ∈ woken, token = .report ∨ token = .worker worker.id
  begun : after.begun.Nodup ∧ ∀ job, job ∈ after.begun ↔ (startOf after.assignments job).isSome
  alarms : ∀ alarm ∈ changed.alarm, alarm.Kept after.clock ∧
    (alarm.IsNew state after ∨ alarm ∈ worker.alarm)
  posted : changed.Posted after.tokens after.clock after.assignments
  lane : ∃ served free, Lane after.clock.resolution after.now after.assignments calls worker.key
    changed.phase.isRunning (changed.phase.job?.toList ++ worker.mailbox.queue ++
      state.blocked.jobFor worker.id) served free
  weight : woken.length + changed.weight + unsettled after.assignments ≤
    worker.weight + unsettled state.assignments

theorem Worker.isFull_congr {worker changed : Worker}
    (capacity : changed.mailbox.capacity = worker.mailbox.capacity)
    (queue : changed.mailbox.queue = worker.mailbox.queue) :
    changed.mailbox.isFull = worker.mailbox.isFull := by
  rw [Mailbox.isFull, Mailbox.isFull, capacity, queue]

theorem HasTurn.kept (turn : HasTurn state worker awake) {after : State} {woken : List Token}
    (tokens : after.tokens = awake ++ state.upcoming ++ woken) (token : Token)
    (kind : token = .script ∨ token = .report) (member : token ∈ state.tokens) :
    token ∈ after.tokens := by
  rw [turn.tokens] at member
  rw [tokens]
  apply List.mem_append_left
  rcases List.mem_append.mp member with own | old
  · rw [List.mem_singleton.mp own] at kind
    rcases kind with same | same <;> cases same
  · exact old

theorem HasTurn.scripts (turn : HasTurn state worker awake) {after : State} {woken : List Token}
    (tokens : after.tokens = awake ++ state.upcoming ++ woken) :
    after.tokens.count .script = state.tokens.count .script + woken.count .script := by
  rw [turn.tokens, tokens, List.count_append, List.singleton_append, List.count_cons_of_ne (by simp)]

theorem Sound.proceed (sound : Sound calls state) (turn : HasTurn state worker awake)
    {changed : Worker} {woken : List Token} {after : State}
    (proceeds : Proceeds calls worker changed awake woken state after) : Advances calls state after := by
  have replaces : Replaces calls calls worker changed [.worker worker.id] woken state after :=
    { proceeds with
      member := turn.member
      tokens := ⟨_, turn.tokens, proceeds.tokens⟩
      goes := fun token member => Or.inr (Or.inr (Or.inl (List.mem_singleton.mp member)))
      wakes := fun token member => Or.inr (proceeds.wakes token member)
      jobs := fun id _ => by rw [proceeds.blocked]
      rooms := fun id job woken _ blocked => ⟨proceeds.blocked ▸ blocked, by simp⟩
      waits := fun _ => proceeds.blocked
      driven := fun stops => proceeds.blocked ▸ stops }
  have sound' : Sound calls after := by
    refine sound.replace replaces proceeds.begun ?_ ?_ ?_ proceeds.posted ?_ ?_
    · exact fun alarm set => (proceeds.alarms alarm set).imp_right
        (Or.imp_right fun old => ⟨old, by simp⟩)
    · exact proceeds.unstopped.trans (sound.unstopped worker turn.member)
    · rw [proceeds.capacity, proceeds.queue]
      exact sound.sizes worker turn.member
    · rw [State.pending, proceeds.queue, proceeds.blocked, proceeds.id]
      exact proceeds.lane
    · intro job awake' blocked
      rw [proceeds.blocked] at blocked
      obtain ⟨other, member, same, kept⟩ := sound.room _ _ _ blocked
      cases List.inj_on_of_nodup_map sound.ids member turn.member same
      cases awake' with
      | true => exact absurd blocked (turn.not_woken sound)
      | false =>
        refine ⟨fun _ => ?_, (fun same => by cases same)⟩
        rw [Worker.isFull_congr proceeds.capacity proceeds.queue]
        exact kept.full rfl
  have load := replaces.load sound.ids
  have weight := proceeds.weight
  rw [proceeds.blocked, List.length_singleton] at load
  exact
    { proceeds with
      sound := sound'
      load := by omega
      asked := proceeds.edits.asked rfl
      blocked := Or.inl proceeds.blocked
      scripts := by
        have silent : Token.script ∉ woken := fun inside => by
          rcases proceeds.wakes _ inside with same | same <;> cases same
        rw [turn.scripts proceeds.tokens, List.count_eq_zero.mpr silent, proceeds.blocked, Nat.add_zero]
      report := fun _ => turn.kept proceeds.tokens _ (Or.inr rfl) }

/-! ### What turns are made of -/

namespace State

theorem complete_eq {job : Nat} {own : Assignment} (state : State)
    (found : state.assignments[job]? = some own) (unended : own.outcome = none) :
    ∃ reports, state.complete job = { state with
        assignments := state.assignments.set job { own with
          endedAt := some state.now, outcome := some (outcomeOf job own) }
        upcoming := state.upcoming ++ reports } ∧
      (reports = [] ∨ reports = [.report] ∧ (state.complete job).allSettled) := by
  have inside := (List.getElem?_eq_some_iff.mp found).1
  have found' : (state.assignments.set job { own with endedAt := some state.now })[job]? =
      some { own with endedAt := some state.now } := List.getElem?_set_self inside
  have complete : state.complete job = settle job (outcomeOf job own) { state with
      assignments := state.assignments.set job { own with endedAt := some state.now } } := by
    unfold complete changeJob
    rw [modify_eq_set found]
    dsimp only
    rw [found']
    rfl
  obtain ⟨reports, settled, last⟩ := settle_eq job (outcomeOf job own) { state with
    assignments := state.assignments.set job { own with endedAt := some state.now } }
  refine ⟨reports, ?_, ?_⟩
  · rw [complete, settled, modify_eq_set found', List.set_set]
    dsimp only
    rw [unended]
    rfl
  · rw [complete]
    exact last.imp_right fun both => ⟨both.1, both.2.2⟩

theorem look_eq {time : Rat} {state : State} (patience : state.limits.patience = .seconds time)
    (waits : 0 < time) (worker : Worker) :
    state.look worker = { state with
      serial := state.serial + 1
      workers := state.workers.map fun other => if other.id = worker.id then
          { other with
            phase := .looking
            alarm := some { due := state.clock.due time, serial := state.serial } }
        else other
      upcoming := state.upcoming ++ [.worker worker.id] } := by
  unfold look
  rw [patience]
  dsimp only
  rw [if_neg (not_le.mpr waits)]
  rfl

end State

/-! ### Turns -/

theorem HasTurn.count (turn : HasTurn state worker awake) {woken : List Token}
    (others : Token.worker worker.id ∉ woken) :
    (awake ++ state.upcoming ++ woken).count (.worker worker.id) = 0 := by
  rw [List.count_append, List.count_eq_zero.mpr turn.not_mem, List.count_eq_zero.mpr others]

theorem HasTurn.count_again (turn : HasTurn state worker awake) {woken : List Token}
    (others : Token.worker worker.id ∉ woken) :
    (awake ++ state.upcoming ++ (woken ++ [Token.worker worker.id])).count
      (Token.worker worker.id) = 1 := by
  rw [← List.append_assoc, List.count_append, turn.count others, List.count_singleton_self]

theorem HasTurn.bell_mem (turn : HasTurn state worker awake) {serial : Nat} {woken : List Token}
    (wakes : ∀ token ∈ woken, token = Token.report ∨ token = .worker worker.id) :
    Token.bell serial ∈ awake ++ state.upcoming ++ woken → .bell serial ∈ state.tokens := by
  intro member
  rw [turn.tokens]
  rcases List.mem_append.mp member with old | new
  · exact List.mem_append_right _ old
  · rcases wakes _ new with same | same <;> cases same

theorem Sound.looks (sound : Sound calls state) (turn : HasTurn state worker awake)
    {middle : State} {held : Worker} {reports : List Token} {assignments : List Assignment}
    {begun : List Nat}
    (middle_eq : middle = { state with
      awake, assignments, begun, upcoming := state.upcoming ++ reports
      workers := state.workers.map fun other => if other.id = worker.id then held else other })
    (reported : reports = [] ∨ reports = [.report])
    (same : held.id = worker.id ∧ held.key = worker.key ∧
      held.mailbox.capacity = worker.mailbox.capacity ∧
      held.mailbox.queue = worker.mailbox.queue ∧ held.stopped = worker.stopped)
    (edits : Edits worker.key state.now state.assignments calls assignments calls)
    (started : begun.Nodup ∧ ∀ job, job ∈ begun ↔ (startOf assignments job).isSome)
    (lane : ∃ served free, Lane state.clock.resolution state.now assignments calls worker.key false
      (worker.mailbox.queue ++ state.blocked.jobFor worker.id) served free)
    (weight : reports.length + 6 + 7 * worker.mailbox.queue.length + unsettled assignments ≤
      worker.weight + unsettled state.assignments) :
    Advances calls state (middle.look held) := by
  obtain ⟨time, patience, waits⟩ := sound.patience
  obtain ⟨id, key, capacity, queue, stopped⟩ := same
  have limits : middle.limits.patience = .seconds time := by rw [middle_eq]; exact patience
  have silent : Token.worker worker.id ∉ reports := by rcases reported with rfl | rfl <;> simp
  have wakes : ∀ token ∈ reports ++ [Token.worker worker.id],
      token = .report ∨ token = .worker worker.id := by
    rcases reported with rfl | rfl <;> simp
  have later : state.now ≤ state.clock.due time := by
    rw [Clock.due, sound.exact, Number.Precision.exact_add, State.now]
    linarith
  -- no bell has the number of the new alarm
  have unheard : .bell state.serial ∉ awake ++ state.upcoming ++ (reports ++ [.worker worker.id]) :=
    fun member => Nat.lt_irrefl _ (sound.bells _ (turn.bell_mem wakes member))
  rw [State.look_eq limits waits, middle_eq]
  refine sound.proceed turn (?_ : Proceeds calls worker { held with
    phase := .looking, alarm := some { due := state.clock.due time, serial := state.serial } }
    awake (reports ++ [.worker worker.id]) state _)
  exact
    { id, key, capacity, queue, unstopped := stopped, edits, begun := started, wakes, lane
      limits := rfl, clock := rfl, alarm := rfl, blocked := rfl, rest := rfl, trace := rfl
      serial := Nat.le_succ _
      workers := by
        exact workers_changed_again id state.workers fun other => { other with
          phase := .looking
          alarm := some { due := state.clock.due time, serial := state.serial } }
      tokens := by simp [State.tokens, id]
      alarms := by
        intro alarm set
        cases set
        exact ⟨⟨later, (fun same => by cases same)⟩, Or.inl ⟨Nat.le_refl _, Nat.lt_succ_self _, rfl⟩⟩
      posted := by
        refine ⟨?_, _, rfl, fun rings => absurd rings ?_⟩
        · have again := turn.count_again silent
          simpa [State.tokens, id, List.append_assoc] using again
        · simpa [State.tokens, id, List.append_assoc] using unheard
      weight := by
        have light : ({ held with
            phase := .looking
            alarm := some { due := state.clock.due time, serial := state.serial } } : Worker).weight =
            3 + 7 * worker.mailbox.queue.length + 2 := by
          rw [← queue]
          rfl
        rw [light, List.length_append, List.length_singleton]
        change _ + unsettled assignments ≤ _
        omega }

theorem Sound.begins (sound : Sound calls state) (turn : HasTurn state worker awake)
    (rests : worker.phase.job? = none ∧ worker.phase.isRunning = false)
    (weight : 6 + 7 * worker.mailbox.queue.length ≤ worker.weight) :
    Advances calls state (({ state with awake } : State).look worker) := by
  have lane := sound.lanes worker turn.member
  rw [State.pending, rests.1, rests.2] at lane
  have held : ({ state with awake } : State) = { state with
      awake, assignments := state.assignments, begun := state.begun
      upcoming := state.upcoming ++ []
      workers := state.workers.map fun other =>
        if other.id = worker.id then worker else other } := by
    rw [List.append_nil, workers_unchanged sound.ids turn.member]
  exact sound.looks turn held (Or.inl rfl) ⟨rfl, rfl, rfl, rfl, rfl⟩ .none sound.begun lane
    (by rw [List.length_nil]; omega)

theorem Sound.goesOn (sound : Sound calls state) (turn : HasTurn state worker awake) {phase : Phase}
    (jobs : phase.job? = worker.phase.job?) (running : phase.isRunning = worker.phase.isRunning)
    (posted : ∀ tokens : List Token, tokens.count (.worker worker.id) = 1 →
      ({ worker with phase, alarm := none } : Worker).Posted tokens state.clock state.assignments)
    (weight : phase.weight worker.mailbox.queue.isEmpty <
      worker.phase.weight worker.mailbox.queue.isEmpty) :
    Advances calls state
      (((({ state with awake } : State).setPhase worker.id phase)).wake (.worker worker.id)) := by
  have proceeds : Proceeds calls worker { worker with phase, alarm := none } awake
      [.worker worker.id] state
      (((({ state with awake } : State).setPhase worker.id phase)).wake (.worker worker.id)) :=
    { id := rfl, key := rfl, capacity := rfl, queue := rfl, unstopped := rfl
      limits := rfl, clock := rfl, alarm := rfl, blocked := rfl, rest := rfl, trace := rfl
      serial := Nat.le_refl _, edits := .none, begun := sound.begun
      workers := workers_changeWorker sound.ids turn.member _
      tokens := by simp [State.tokens, State.wake, State.setPhase, State.changeWorker]
      wakes := by simp
      alarms := nofun
      posted := by
        apply posted
        have again := turn.count_again (List.not_mem_nil : Token.worker worker.id ∉ [])
        simpa [State.tokens, State.wake, State.setPhase, State.changeWorker] using again
      lane := by
        have lane := sound.lanes worker turn.member
        rw [State.pending, ← jobs, ← running] at lane
        exact lane
      weight := by
        simp only [Worker.weight, List.length_singleton, Option.elim_none] at weight ⊢
        change _ + unsettled state.assignments ≤ _
        omega }
  exact sound.proceed turn proceeds

theorem Sound.findsNone (sound : Sound calls state) (turn : HasTurn state worker awake)
    (looks : worker.phase = .looking) (empty : worker.mailbox.queue = []) :
    Advances calls state (({ state with awake } : State).changeWorker worker.id fun worker =>
      { worker with phase := .waiting }) := by
  have posted := sound.posted worker turn.member
  rw [Worker.Posted, looks] at posted
  obtain ⟨-, alarm, set, -⟩ := posted
  have lane := sound.lanes worker turn.member
  rw [State.pending, looks] at lane
  refine sound.proceed turn (?_ : Proceeds calls worker { worker with phase := .waiting } awake []
    state _)
  exact
    { id := rfl, key := rfl, capacity := rfl, queue := rfl, unstopped := rfl
      limits := rfl, clock := rfl, alarm := rfl, blocked := rfl, rest := rfl, trace := rfl
      serial := Nat.le_refl _, edits := .none, begun := sound.begun
      wakes := fun _ same => by cases same
      lane
      workers := workers_changeWorker sound.ids turn.member _
      tokens := by simp [State.tokens, State.changeWorker]
      alarms := by
        exact fun own owned =>
          ⟨sound.kept own (State.mem_allAlarms_of_worker turn.member owned), Or.inr owned⟩
      posted := by
        have none := turn.count (List.not_mem_nil : Token.worker worker.id ∉ [])
        rw [List.append_nil] at none
        exact ⟨none, by rw [set]; rfl, empty⟩
      weight := by
        simp only [Worker.weight, looks, Phase.weight, List.length_nil]
        change _ + unsettled state.assignments ≤ _
        omega }

namespace NotesRoom

variable {id : Nat} {before after : Blocked} {woken : List Token}

theorem jobFor (notes : NotesRoom id before after woken) (other : Nat) :
    after.jobFor other = before.jobFor other := by
  cases notes <;> rfl

theorem weight (notes : NotesRoom id before after woken) :
    woken.length + after.weight = before.weight := by
  cases notes with
  | woken job => rfl
  | away => exact Nat.zero_add _

theorem room_elsewhere (notes : NotesRoom id before after woken) {other job : Nat} {awake : Bool}
    (differs : other ≠ id) (waits : after = .room other job awake) :
    before = .room other job awake := by
  cases notes with
  | woken =>
    cases waits
    exact absurd rfl differs
  | away => exact waits

theorem driven (notes : NotesRoom id before after woken) (stops : after = .workers) :
    before = .workers := by
  cases notes with
  | woken => cases stops
  | away => exact stops

end NotesRoom

def Worker.taking (job : Nat) (rest : List Nat) (worker : Worker) : Worker :=
  { worker with
    mailbox := { worker.mailbox with queue := rest }
    phase := .took job, alarm := none, stopped := false }

theorem Sound.taking_free (sound : Sound calls state) (member : worker ∈ state.workers) {job : Nat}
    {rest : List Nat} (queue : worker.mailbox.queue = job :: rest) :
    (worker.taking job rest).mailbox.isFull = false := by
  have size := sound.sizes worker member
  rw [queue, List.length_cons] at size
  unfold Worker.taking Mailbox.isFull
  rw [Bool.and_eq_false_iff, decide_eq_false_iff_not, decide_eq_false_iff_not]
  by_cases bounded : 0 < worker.mailbox.capacity
  · have := size bounded
    dsimp only
    omega
  · exact Or.inl bounded

theorem Sound.takes (sound : Sound calls state) (turn : HasTurn state worker awake)
    (rests : worker.phase.job? = none ∧ worker.phase.isRunning = false) {job : Nat} {rest : List Nat}
    (queue : worker.mailbox.queue = job :: rest) (weight : 10 + 7 * rest.length ≤ worker.weight) :
    Advances calls state (((({ state with awake } : State).changeWorker worker.id fun _ =>
      worker.taking job rest).noteRoom worker.id).wake (.worker worker.id)) := by
  have member := turn.member
  have size : 0 < worker.mailbox.capacity → (rest.length : Int) ≤ worker.mailbox.capacity := by
    intro bounded
    have := sound.sizes worker member bounded
    rw [queue, List.length_cons] at this
    omega
  have lane := sound.lanes worker member
  rw [State.pending, rests.1, rests.2, queue] at lane
  obtain ⟨blocked, woken, notes, noted⟩ := State.noteRoom_eq worker.id
    (({ state with awake } : State).changeWorker worker.id fun _ => worker.taking job rest)
  have notes : NotesRoom worker.id state.blocked blocked woken := notes
  have silent : Token.worker worker.id ∉ woken := fun inside => by
    cases notes.wakes _ inside
  have once := turn.count_again silent
  rw [noted]
  generalize after_eq : State.wake (.worker worker.id) _ = after
  have workers : after.workers = state.workers.map fun other =>
      if other.id = worker.id then worker.taking job rest else other := after_eq ▸ rfl
  have assignments : after.assignments = state.assignments := after_eq ▸ rfl
  have clock : after.clock = state.clock := after_eq ▸ rfl
  have begun : after.begun = state.begun := after_eq ▸ rfl
  have blocked_eq : after.blocked = blocked := after_eq ▸ rfl
  have tokens : after.tokens = awake ++ state.upcoming ++ (woken ++ [.worker worker.id]) := by
    rw [← after_eq]
    simp [State.tokens, State.wake, State.changeWorker]
  have replaces : Replaces calls calls worker (worker.taking job rest) [.worker worker.id]
      (woken ++ [.worker worker.id]) state after :=
    { member, workers, clock, id := rfl, key := rfl, limits := after_eq ▸ rfl
      alarm := after_eq ▸ rfl, serial := after_eq ▸ Nat.le_refl _
      edits := assignments ▸ .none
      tokens := ⟨_, turn.tokens, tokens⟩
      goes := fun token inside => Or.inr (Or.inr (Or.inl (List.mem_singleton.mp inside)))
      wakes := by
        intro token inside
        rcases List.mem_append.mp inside with old | own
        · exact Or.inl (notes.wakes token old)
        · exact Or.inr (Or.inr (List.mem_singleton.mp own))
      jobs := fun id _ => blocked_eq ▸ notes.jobFor id
      rooms := fun _ _ _ differs waits =>
        ⟨notes.room_elsewhere differs (blocked_eq ▸ waits), by simp⟩
      waits := fun waits => blocked_eq.trans (notes.same fun job same => by
        rw [same] at waits
        rcases waits with same | same <;> cases same).1
      driven := fun stops => notes.driven (blocked_eq ▸ stops) }
  have posted : (worker.taking job rest).Posted after.tokens after.clock after.assignments := by
    refine ⟨?_, rfl⟩
    rw [tokens]
    exact once
  have room : ∀ job' awake', after.blocked = .room worker.id job' awake' →
      RoomKept after.tokens (worker.taking job rest) awake' := by
    rw [blocked_eq, tokens]
    intro job' awake' waits
    obtain ⟨rfl, rfl | old⟩ := notes.own waits
    · exact ⟨(fun same => by cases same), fun _ => ⟨sound.taking_free member queue, ⟨job, rfl⟩,
        List.sublist_append_right _ _⟩⟩
    · exact absurd old (turn.not_woken sound)
  have load := replaces.load sound.ids
  have light : (worker.taking job rest).weight = 9 + 7 * rest.length := rfl
  have less := notes.weight
  rw [List.length_append, List.length_singleton, blocked_eq, assignments, light] at load
  exact
    { sound := by
        refine sound.replace replaces ?_ (fun _ same => by cases same) rfl size posted ?_ room
        · rw [begun, assignments]
          exact sound.begun
        · rw [State.now, clock, assignments, State.pending, blocked_eq, notes.jobFor]
          exact lane
      rest := after_eq ▸ rfl, trace := after_eq ▸ rfl, clock, alarm := after_eq ▸ rfl
      asked := by rw [assignments]
      load := by omega
      blocked := by
        rw [blocked_eq]
        exact notes.cases.imp_right fun waits =>
          waits.elim fun job' waits => ⟨_, job', waits⟩
      scripts := by
        have summons := notes.summons
        rw [turn.scripts tokens, List.count_append, blocked_eq,
          List.count_eq_zero.mpr (show Token.script ∉ [Token.worker worker.id] by simp)]
        omega
      report := fun _ => turn.kept tokens _ (Or.inr rfl) }

end Parley.Dispatcher
