import Mathlib.Algebra.Order.BigOperators.Group.List
import Parley.Proofs.Dispatch.Workers

/-!
What becomes of a job in the hands of a worker: it starts, takes its time and ends, and the worker
turns to the next one or goes.
-/

namespace Parley.Dispatcher

variable {calls : List Rat} {state : State} {worker : Worker} {awake : List Token}

theorem unsettled_eq {assignments : List Assignment} {job : Nat} {own : Assignment}
    (found : assignments[job]? = some own) (unended : own.outcome = none) :
    unsettled assignments = 1 := by
  refine if_neg fun all => ?_
  have settled := List.all_eq_true.mp all own (List.mem_of_getElem? found)
  rw [unended] at settled
  cases settled

theorem startOf_set {assignments : List Assignment} {job : Nat} {own changed : Assignment}
    (found : assignments[job]? = some own) (same : changed.startedAt = own.startedAt) (other : Nat) :
    startOf (assignments.set job changed) other = startOf assignments other := by
  by_cases equal : job = other
  · subst equal
    rw [startOf, startOf, List.getElem?_set_self (List.getElem?_eq_some_iff.mp found).1, found]
    exact same
  · exact startOf_congr (List.getElem?_set_ne equal)

theorem Sound.finishes (sound : Sound calls state) (turn : HasTurn state worker awake) {job : Nat}
    {before : Assignment} (own : Assignment) (begun : List Nat) {started : Rat}
    (found : state.assignments[job]? = some before) (owned : before.key = worker.key)
    (asked : own.asked = before.asked) (unended : before.outcome = none ∧ own.outcome = none)
    (start : own.startedAt = some started)
    (lasts : Lasts state.clock.resolution own.duration started state.now)
    (begins : begun.Nodup ∧
      ∀ other, other ∈ begun ↔ (startOf (state.assignments.set job own) other).isSome)
    (lane : ∃ served free, Lane state.clock.resolution state.now (state.assignments.set job own) calls
      worker.key true (job :: (worker.mailbox.queue ++ state.blocked.jobFor worker.id)) served free)
    (weight : 6 + 7 * worker.mailbox.queue.length ≤ worker.weight) :
    Advances calls state (State.finish worker job
      { state with awake, begun, assignments := state.assignments.set job own }) := by
  have inside := (List.getElem?_eq_some_iff.mp found).1
  have found' : (state.assignments.set job own)[job]? = some own := List.getElem?_set_self inside
  obtain ⟨served, free, lane⟩ := lane
  let ended : Assignment :=
    { own with endedAt := some state.now, outcome := some (State.outcomeOf job own) }
  have called := (Edits.change found owned asked).called sound.called
  have lane : Lane state.clock.resolution state.now
      ((state.assignments.set job own).set job ended) calls worker.key false
      (worker.mailbox.queue ++ state.blocked.jobFor worker.id) (served ++ [job]) (some state.now) :=
    lane.finish called found' start lasts ⟨rfl, rfl, rfl⟩ rfl rfl
  rw [List.set_set] at lane
  let held : Worker := { worker with mailbox := worker.mailbox.done?.getD worker.mailbox }
  obtain ⟨capacity, queue⟩ := done_mailbox worker.mailbox
  have changes : (({ state with awake, begun, assignments := state.assignments.set job own } :
      State).changeWorker worker.id fun worker => { worker with mailbox := held.mailbox }) =
      { state with
        awake, begun, assignments := state.assignments.set job own
        workers := state.workers.map fun other => if other.id = worker.id then held else other } :=
    congrArg (fun workers => ({ state with
      awake, begun, workers, assignments := state.assignments.set job own } : State))
      (workers_changeWorker sound.ids turn.member _)
  unfold State.finish
  dsimp only
  rw [changes]
  obtain ⟨reports, completed, last⟩ := State.complete_eq { state with
    awake, begun, assignments := state.assignments.set job own
    workers := state.workers.map fun other => if other.id = worker.id then held else other }
    found' unended.2
  rw [List.set_set] at completed
  have starts (other : Nat) :
      other ∈ begun ↔ (startOf (state.assignments.set job ended) other).isSome := by
    have same : startOf ((state.assignments.set job own).set job ended) other =
        startOf (state.assignments.set job own) other :=
      startOf_set found' (show ended.startedAt = own.startedAt from rfl) other
    rw [List.set_set] at same
    rw [same]
    exact begins.2 other
  refine sound.looks turn completed (last.imp_right And.left)
    ⟨rfl, rfl, capacity, queue, rfl⟩ (.change found owned (asked ▸ rfl)) ⟨begins.1, starts⟩
    ⟨_, _, lane⟩ ?_
  · change _ + unsettled (state.assignments.set job ended) ≤ _
    rw [unsettled_eq found unended.1]
    rcases last with rfl | ⟨rfl, settled⟩
    · have := unsettled_le (state.assignments.set job ended)
      rw [List.length_nil]
      omega
    · have none : unsettled (state.assignments.set job ended) = 0 := by
        rw [completed] at settled
        exact if_pos settled
      rw [none, List.length_singleton]
      omega

/-- Whether a worker that begins to run a job is awake, or sets an alarm. -/
inductive Runs (state : State) (id : Nat) (duration : Rat) : Option Alarm → List Token → Nat → Prop where
  | atOnce (instant : duration = 0) : Runs state id duration none [.worker id] state.serial
  | later (lasting : 0 < duration) : Runs state id duration
      (some { due := state.clock.due duration, serial := state.serial }) [] (state.serial + 1)

theorem Sound.runs (sound : Sound calls state) (turn : HasTurn state worker awake) {job : Nat}
    {before : Assignment} (own : Assignment) {begun : List Nat} {duration : Rat} {alarm : Option Alarm}
    {woken : List Token} {serial : Nat} (runs : Runs state worker.id duration alarm woken serial)
    (found : state.assignments[job]? = some before) (owned : before.key = worker.key)
    (asked : own.asked = before.asked) (unended : before.outcome = none)
    (start : own.startedAt = some state.now) (lasts : own.duration = some duration)
    (begins : begun.Nodup ∧
      ∀ other, other ∈ begun ↔ (startOf (state.assignments.set job own) other).isSome)
    (lane : ∃ served free, Lane state.clock.resolution state.now (state.assignments.set job own) calls
      worker.key true (job :: (worker.mailbox.queue ++ state.blocked.jobFor worker.id)) served free)
    (weight : 8 + 7 * worker.mailbox.queue.length ≤ worker.weight) :
    Advances calls state { state with
      awake, begun, serial, assignments := state.assignments.set job own
      upcoming := state.upcoming ++ woken
      workers := state.workers.map fun other =>
        if other.id = worker.id then { worker with phase := .running job, alarm } else other } := by
  have found' : (state.assignments.set job own)[job]? = some own :=
    List.getElem?_set_self (List.getElem?_eq_some_iff.mp found).1
  have wakes : ∀ token ∈ woken, token = .report ∨ token = .worker worker.id := by
    cases runs <;> simp
  have tokens : awake ++ (state.upcoming ++ woken) = awake ++ state.upcoming ++ woken :=
    (List.append_assoc ..).symm
  refine sound.proceed turn (?_ : Proceeds calls worker { worker with phase := .running job, alarm }
    awake woken state _)
  exact
    { id := rfl, key := rfl, capacity := rfl, queue := rfl, unstopped := rfl, workers := rfl
      limits := rfl, clock := rfl, alarm := rfl, blocked := rfl, rest := rfl, trace := rfl
      tokens, wakes, lane, begun := begins, edits := .change found owned asked
      serial := by cases runs <;> simp
      alarms := by
        intro alarm set
        cases runs with
        | atOnce => cases set
        | later lasting =>
          cases set
          refine ⟨⟨?_, nofun⟩, Or.inl ⟨Nat.le_refl _, Nat.lt_succ_self _, rfl⟩⟩
          change state.clock.now ≤ state.clock.due duration
          rw [Clock.due, sound.exact, Number.Precision.exact_add]
          linarith
      posted := by
        refine ⟨own, state.now, found', start, ?_⟩
        rw [State.tokens, tokens, lasts, Option.getD_some]
        cases runs with
        | atOnce instant =>
          refine Or.inl ⟨turn.count_again (List.not_mem_nil), rfl, ?_⟩
          have := sound.resolution
          constructor <;> simp only [Option.getD_some, instant, State.now] <;> linarith
        | later =>
          refine Or.inr ⟨turn.count List.not_mem_nil, _, rfl, ?_⟩
          rw [Clock.due, sound.exact, Number.Precision.exact_add, State.now]
      weight := by
        have heavy := unsettled_eq found unended
        have := unsettled_le (state.assignments.set job own)
        have light : woken.length + ({ worker with phase := .running job, alarm } : Worker).weight =
            6 + 7 * worker.mailbox.queue.length + (woken.length + alarm.elim 0 Alarm.weight) := by
          simp only [Worker.weight, Phase.weight]
          omega
        have once : woken.length + alarm.elim 0 Alarm.weight ≤ 2 := by cases runs <;> simp [Alarm.weight]
        rw [light, heavy]
        change _ + unsettled (state.assignments.set job own) ≤ _
        omega }

theorem State.openJob_eq {job : Nat} {before : Assignment}
    (found : state.assignments[job]? = some before) :
    state.openJob job = { state with
      begun := state.begun ++ [job]
      assignments := state.assignments.set job { before with startedAt := some state.now } } :=
  congrArg (fun assignments => { state with assignments, begun := state.begun ++ [job] })
    (modify_eq_set found _)

theorem Sound.begun_snoc (sound : Sound calls state) {job : Nat} {own : Assignment}
    (inside : job < state.assignments.length) (unstarted : startOf state.assignments job = none)
    (start : own.startedAt = some state.now) :
    (state.begun ++ [job]).Nodup ∧ ∀ other, other ∈ state.begun ++ [job] ↔
      (startOf (state.assignments.set job own) other).isSome := by
  constructor
  · refine List.nodup_append.mpr ⟨sound.begun.1, List.nodup_singleton job, ?_⟩
    intro other old _ new equal
    rw [equal, List.mem_singleton.mp new, sound.begun.2, unstarted] at old
    cases old
  · intro other
    rw [List.mem_append, List.mem_singleton, sound.begun.2]
    by_cases same : job = other
    · subst same
      rw [startOf, startOf, List.getElem?_set_self inside]
      simp [start]
    · rw [startOf_congr (List.getElem?_set_ne same)]
      simp [Ne.symm same]

theorem Sound.runFor_eq (sound : Sound calls state) (member : worker ∈ state.workers)
    (awake : List Token) (job : Nat) {duration : Rat} (forwards : 0 ≤ duration) :
    ∃ alarm woken serial, Runs state worker.id duration alarm woken serial ∧
      ({ state with awake } : State).runFor worker.id job duration =
        { ({ state with awake } : State).openJob job with
          serial, upcoming := state.upcoming ++ woken
          workers := state.workers.map fun other =>
            if other.id = worker.id then { worker with phase := .running job, alarm } else other } := by
  have runs := workers_changeWorker sound.ids member fun other =>
    { other with phase := .running job, alarm := none }
  unfold State.runFor State.setPhase State.changeWorker
  dsimp only [State.openJob, State.changeJob]
  rw [runs]
  by_cases instant : duration ≤ 0
  · refine ⟨_, _, _, .atOnce (le_antisymm instant forwards), ?_⟩
    rw [if_pos instant]
    rfl
  · refine ⟨_, _, _, .later (not_le.mp instant), ?_⟩
    have again := workers_changed_again
      (show ({ worker with phase := .running job, alarm := none } : Worker).id = worker.id from rfl)
      state.workers fun other => { other with
        alarm := some { due := state.clock.due duration, serial := state.serial } }
    rw [if_neg instant, List.append_nil]
    dsimp only [State.alarmIn] at again ⊢
    rw [again]

theorem Sound.starts (sound : Sound calls state) (turn : HasTurn state worker awake) {job : Nat}
    (ready : worker.phase = .ready job) :
    Advances calls state (({ state with awake } : State).start worker job) := by
  obtain ⟨served, free, lane⟩ := sound.lanes worker turn.member
  rw [State.pending, ready] at lane
  have first : job ∈ (Phase.ready job).job?.toList ++ worker.mailbox.queue ++
      state.blocked.jobFor worker.id := List.mem_cons_self
  obtain ⟨before, found, unended⟩ := lane.unended job first
  have owned : before.key = worker.key := by
    obtain ⟨other, there, owned⟩ := lane.mem_pending first
    rw [found] at there
    exact Option.some.inj there ▸ owned
  have unstarted : startOf state.assignments job = none :=
    (lane.idle rfl).unstarted job first
  let own : Assignment := { before with startedAt := some state.now }
  have opened : ({ state with awake } : State).openJob job = { state with
      awake, begun := state.begun ++ [job], assignments := state.assignments.set job own } :=
    State.openJob_eq found
  have begins := sound.begun_snoc (List.getElem?_eq_some_iff.mp found).1 unstarted
    (show own.startedAt = some state.now from rfl)
  have duration : State.durationOf job { state with awake } = before.duration := by
    rw [State.durationOf, found, Option.bind_some]
  have weight : 8 + 7 * worker.mailbox.queue.length ≤ worker.weight := by
    rw [Worker.weight, ready]
    exact Nat.le_add_right _ _
  have started := lane.start found
  unfold State.start
  rw [duration]
  cases takes : before.duration with
  | none =>
    dsimp only
    rw [opened]
    refine sound.finishes turn own _ found owned (by rfl) ⟨unended.2, unended.2⟩ (by rfl) ?_ begins
      ⟨served, free, started⟩ (by omega)
    have := sound.resolution
    constructor <;> simp only [own, takes, Option.getD_none] <;> linarith
  | some duration =>
    dsimp only
    have forwards := sound.durations before (List.mem_of_getElem? found) duration takes
    obtain ⟨alarm, woken, serial, runs, runs_eq⟩ := sound.runFor_eq turn.member awake job forwards
    rw [runs_eq, opened]
    exact sound.runs turn own runs found owned rfl unended.2 rfl takes begins
      ⟨served, free, started⟩ weight

/-! ### Workers go -/

theorem Sound.roomless (sound : Sound calls state) (member : worker ∈ state.workers)
    (empty : worker.mailbox.queue = []) (rests : worker.phase.job? = none) (job : Nat)
    (woken : Bool) : state.blocked ≠ .room worker.id job woken := by
  intro blocked
  obtain ⟨other, inside, same, kept⟩ := sound.room _ _ _ blocked
  cases List.inj_on_of_nodup_map sound.ids inside member same
  cases woken with
  | true =>
    obtain ⟨-, ⟨taken, took⟩, -⟩ := kept.free rfl
    rw [took] at rests
    cases rests
  | false =>
    have full := kept.full rfl
    unfold Mailbox.isFull at full
    simp only [empty, List.length_nil, Bool.and_eq_true, decide_eq_true_eq] at full
    omega

theorem Sound.jobFor_nil (sound : Sound calls state) (member : worker ∈ state.workers)
    (empty : worker.mailbox.queue = []) (rests : worker.phase.job? = none) :
    state.blocked.jobFor worker.id = [] := by
  have away := sound.roomless member empty rests
  unfold Blocked.jobFor
  split
  · rename_i id job woken blocked
    exact if_neg fun (same : id = worker.id) => away job woken (same ▸ blocked)
  · rfl

theorem Sound.exit_eq (sound : Sound calls state) (member : worker ∈ state.workers)
    (empty : worker.mailbox.queue = []) (rests : worker.phase.job? = none) (awake : List Token) :
    ({ state with awake } : State).exit worker =
      { state with awake, workers := state.workers.filter (·.id ≠ worker.id) } := by
  have away := sound.roomless member empty rests
  obtain ⟨blocked, woken, notes, noted⟩ := State.noteRoom_eq worker.id
    { state with awake, workers := state.workers.filter (·.id ≠ worker.id) }
  have same := notes.same fun job => away job false
  unfold State.exit
  dsimp only
  rw [noted, empty, List.foldl_nil, same.1, same.2, List.append_nil]
  unfold State.noteGone
  have driven := sound.driven
  simp [driven]

theorem Sound.retires (sound : Sound calls state) (turn : HasTurn state worker awake)
    (empty : worker.mailbox.queue = [])
    (rests : worker.phase.job? = none ∧ worker.phase.isRunning = false) :
    Advances calls state (({ state with awake } : State).exit worker) := by
  have member := turn.member
  have idle := sound.jobFor_nil member empty rests.1
  rw [sound.exit_eq member empty rests.1]
  have mem {other : Worker} (inside : other ∈ state.workers.filter (·.id ≠ worker.id)) :
      other ∈ state.workers ∧ other.id ≠ worker.id := by
    simpa using List.mem_filter.mp inside
  have unmoved {token : Token} (differs : token ≠ .worker worker.id) :
      Unmoved token state.tokens (awake ++ state.upcoming) :=
    ⟨_, _, [], turn.tokens, by simp, by simpa using differs, List.not_mem_nil⟩
  have bell (serial : Nat) : Unmoved (.bell serial) state.tokens (awake ++ state.upcoming) :=
    unmoved (fun same => by cases same)
  have others {other : Worker} (inside : other ∈ state.workers.filter (·.id ≠ worker.id)) :
      Unmoved (.worker other.id) state.tokens (awake ++ state.upcoming) :=
    unmoved fun same => (mem inside).2 (Token.worker.inj same)
  have filtered : (state.workers.filter (·.id ≠ worker.id)).Sublist state.workers :=
    List.filter_sublist
  have moves : Moves (some worker.id) [.worker worker.id] [] state
      { state with awake, workers := state.workers.filter (·.id ≠ worker.id) } :=
    { tokens := ⟨_, turn.tokens, (List.append_nil _).symm⟩
      silent := fun _ => List.not_mem_nil
      called := fun _ member => (List.not_mem_nil member).elim
      serial := Nat.le_refl _
      ids := filtered.map _
      others := fun other inside _ =>
        ⟨(mem inside).1, by simpa using (mem inside).2, List.not_mem_nil, by simp⟩
      own := fun other inside same => absurd (Option.some.inj same) (mem inside).2
      script := fun alarm set => Or.inr ⟨set, by simp⟩ }
  constructor
  case sound =>
    constructor
    case toNumbered => exact sound.toNumbered.moves moves
    case keys => exact sound.keys.sublist (filtered.map _)
    case kept =>
      intro alarm inside
      rcases moves.allAlarms inside with ⟨later, earlier, -⟩ | ⟨old, -⟩
      · exact absurd earlier (Nat.not_lt.mpr later)
      · exact sound.kept alarm old
    case unstopped => exact fun other inside => sound.unstopped other (mem inside).1
    case sizes => exact fun other inside => sound.sizes other (mem inside).1
    case posted =>
      exact fun other inside => (sound.posted other (mem inside).1).unmoved (others inside)
        (fun alarm _ => bell _) fun _ _ => rfl
    case lanes => exact fun other inside => sound.lanes other (mem inside).1
    case empty =>
      intro key strangers
      by_cases own : worker.key = key
      · obtain ⟨served, free, lane⟩ := sound.lanes worker member
        rw [State.pending, rests.1, rests.2, empty, idle, own] at lane
        exact ⟨served, free, lane⟩
      · refine sound.empty key fun other inside => ?_
        by_cases same : other.id = worker.id
        · rw [List.inj_on_of_nodup_map sound.ids inside member same]
          exact own
        · exact strangers other (List.mem_filter.mpr ⟨inside, by simpa using same⟩)
    case room =>
      intro id job woken blocked
      obtain ⟨other, inside, rfl, kept⟩ := sound.room id job woken blocked
      have differs : other.id ≠ worker.id := fun same =>
        sound.roomless member empty rests.1 job woken (same ▸ blocked)
      refine ⟨other, List.mem_filter.mpr ⟨inside, by simpa using differs⟩, rfl, kept.full, ?_⟩
      intro awake'
      obtain ⟨free, took, order⟩ := kept.free awake'
      exact ⟨free, took, (unmoved (fun same => by cases same) : Unmoved .script _ _).sublist order⟩
    all_goals first
      | exact sound.patience | exact sound.exact | exact sound.resolution | exact sound.called
      | exact sound.durations | exact sound.begun | exact sound.waits | exact sound.driven
  case load =>
    have weights := (filtered.map Worker.weight).sum_le_sum fun _ _ => Nat.zero_le _
    unfold State.load
    rw [turn.tokens, List.length_append, List.length_singleton]
    change (awake ++ state.upcoming).length + _ + _ + _ + _ < _
    dsimp only
    omega
  case scripts =>
    rw [turn.scripts (List.append_nil _).symm]
    rfl
  case report => exact fun _ => turn.kept (List.append_nil _).symm _ (Or.inr rfl)
  case blocked => exact Or.inl rfl
  all_goals rfl

/-! ### Turns of workers -/

theorem Sound.takesOrWaits (sound : Sound calls state) (turn : HasTurn state worker awake)
    (rests : worker.phase.job? = none ∧ worker.phase.isRunning = false)
    (weight : 3 ≤ worker.phase.weight worker.mailbox.queue.isEmpty)
    (looks : worker.mailbox.queue = [] → worker.phase = .looking) :
    Advances calls state (({ state with awake } : State).takeOrWait worker) := by
  have unstopped := sound.unstopped worker turn.member
  unfold State.takeOrWait Mailbox.take?
  cases queue : worker.mailbox.queue with
  | nil =>
    dsimp only
    rw [unstopped, if_neg Bool.false_ne_true]
    exact sound.findsNone turn (looks queue) queue
  | cons job rest =>
    refine sound.takes turn rests queue ?_
    have heavy : worker.mailbox.queue.length = rest.length + 1 := by rw [queue, List.length_cons]
    rw [Worker.weight, heavy]
    omega

theorem Sound.ends (sound : Sound calls state) (turn : HasTurn state worker awake) {job : Nat}
    (running : worker.phase = .running job) :
    Advances calls state (({ state with awake } : State).finish worker job) := by
  obtain ⟨served, free, lane⟩ := sound.lanes worker turn.member
  have posted := sound.posted worker turn.member
  rw [Worker.Posted, running] at posted
  rw [State.pending, running] at lane
  obtain ⟨own, started, found, start, awakens⟩ := posted
  have lasts : Lasts state.clock.resolution own.duration started state.now := by
    rcases awakens with ⟨-, -, lasts⟩ | ⟨none, -⟩
    · exact lasts
    · rw [turn.once] at none
      cases none
  have first : job ∈ (Phase.running job).job?.toList ++ worker.mailbox.queue ++
      state.blocked.jobFor worker.id := List.mem_cons_self
  obtain ⟨other, there, owned⟩ := lane.mem_pending first
  obtain ⟨another, there', unended⟩ := lane.unended job first
  rw [found] at there there'
  cases there
  cases there'
  have same : state.assignments.set job own = state.assignments := by
    obtain ⟨inside, rfl⟩ := List.getElem?_eq_some_iff.mp found
    exact List.set_getElem_self inside
  have weight : 6 + 7 * worker.mailbox.queue.length ≤ worker.weight := by
    rw [Worker.weight, running]
    exact Nat.le_add_right _ _
  have ended := sound.finishes turn own state.begun found owned rfl
    ⟨unended.2, unended.2⟩ start lasts
  rw [same] at ended
  exact ended sound.begun ⟨served, free, lane⟩ weight

theorem Sound.workerTurn (sound : Sound calls state) (member : worker ∈ state.workers)
    (first : state.awake = .worker worker.id :: awake) :
    Advances calls state (({ state with awake } : State).workerTurn worker) := by
  have posted := sound.posted worker member
  have present : 0 < state.tokens.count (.worker worker.id) := by
    rw [State.tokens, first]
    exact List.count_pos_iff.mpr List.mem_cons_self
  unfold Worker.Posted at posted
  unfold State.workerTurn
  cases phase : worker.phase with
  | created =>
    rw [phase] at posted
    refine sound.begins ⟨first, member, posted.1⟩ (by rw [phase]; exact ⟨rfl, rfl⟩) ?_
    rw [Worker.weight, phase]
    exact Nat.le_add_right _ _
  | looking =>
    rw [phase] at posted
    refine sound.takesOrWaits ⟨first, member, posted.1⟩ (by rw [phase]; exact ⟨rfl, rfl⟩) ?_
      fun _ => phase
    rw [phase]
    exact Nat.le_refl 3
  | handed =>
    rw [phase] at posted
    obtain ⟨time, patience, -⟩ := sound.patience
    dsimp only
    rw [if_neg (by rw [patience]; intro same; cases same)]
    refine sound.takesOrWaits ⟨first, member, posted.1⟩ (by rw [phase]; exact ⟨rfl, rfl⟩) ?_
      fun empty => absurd empty posted.2.2
    rw [phase]
    exact Nat.le_refl 3
  | took job =>
    rw [phase] at posted
    refine sound.goesOn ⟨first, member, posted.1⟩ (by rw [phase]; rfl) (by rw [phase]; rfl)
      (fun tokens once => ⟨once, rfl⟩) ?_
    rw [phase]
    exact Nat.lt_succ_self 8
  | ready job =>
    rw [phase] at posted
    exact sound.starts ⟨first, member, posted.1⟩ phase
  | running job =>
    rw [phase] at posted
    obtain ⟨own, started, -, -, ⟨once, -⟩ | ⟨none, -⟩⟩ := posted
    · exact sound.ends ⟨first, member, once⟩ phase
    · rw [none] at present
      cases present
  | expiring turns =>
    rw [phase] at posted
    cases turns with
    | zero =>
      dsimp only
      cases queue : worker.mailbox.queue with
      | nil => exact sound.retires ⟨first, member, posted.1⟩ queue (by rw [phase]; exact ⟨rfl, rfl⟩)
      | cons job rest =>
        refine sound.begins ⟨first, member, posted.1⟩ (by rw [phase]; exact ⟨rfl, rfl⟩) ?_
        rw [Worker.weight, phase, queue]
        exact Nat.le_add_right _ _
    | succ turns =>
      refine sound.goesOn ⟨first, member, posted.1⟩ (by rw [phase]; rfl) (by rw [phase]; rfl)
        (fun tokens once => ⟨once, rfl⟩) ?_
      rw [phase, Phase.weight, Phase.weight]
      omega
  | waiting =>
    rw [phase] at posted
    rw [posted.1] at present
    cases present
  | stillborn | aborting | closing | dead =>
    rw [phase] at posted
    exact posted.elim

end Parley.Dispatcher
