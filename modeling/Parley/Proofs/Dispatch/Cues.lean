import Parley.Proofs.Dispatch.Alarms
import Parley.Proofs.Dispatch.Custody

/-!
What can happen in a turn: a worker takes it, or the script does, or somebody is woken at most. The script
is awake only when what it waits for is there: its time is up, all jobs have ended, there is room in a
mailbox, or all workers that it has stopped are gone.
-/

namespace Parley.Dispatcher

/-- Nobody is woken but workers, or the script is when its time is up or all jobs have ended. -/
inductive Rouses (state after : State) : Prop where
  | workers (blocked : after.blocked = state.blocked) (alarm : after.alarm.isSome = state.alarm.isSome)
    (scripts : after.tokens.count .script = state.tokens.count .script)
  | script (waits : state.alarm.isSome ∨ state.blocked = .jobs) (blocked : after.blocked = .time)
    (alarm : after.alarm = none)
    (scripts : after.tokens.count .script = state.tokens.count .script + 1)

/-- Nobody does anything: the workers keep what they have. -/
structure Idles (state after : State) : Prop where
  workers : ∃ change : Worker → Worker, after.workers = state.workers.map change ∧
    ∀ worker ∈ state.workers, (change worker).id = worker.id ∧
      (change worker).custody = worker.custody ∧ (change worker).phase.fate = worker.phase.fate ∧
      ((change worker).phase = .dead ↔ worker.phase = .dead)
  assignments : after.assignments = state.assignments
  begun : after.begun = state.begun
  rest : after.rest = state.rest
  serial : after.serial = state.serial
  rouses : Rouses state after

/-- What the script does in its turn, once it is no longer awake, according to what it waits for. -/
inductive Resumes (state popped : State) : State → Prop where
  | begins (blocked : state.blocked = .nothing) : Resumes state popped (State.runActions popped.rest popped)
  | goesOn (blocked : state.blocked = .time ∨ state.blocked = .jobs) : Resumes state popped popped.goOn
  | forgets (blocked : state.blocked = .workers) :
    Resumes state popped ({ popped with workers := [] } : State).goOn
  | misses {id job : Nat} {woken : Bool} (blocked : state.blocked = .room id job woken)
    (gone : ∀ worker ∈ state.workers, worker.id ≠ id) : Resumes state popped popped.goOn
  | delivers {worker : Worker} {job : Nat} {woken : Bool} (blocked : state.blocked = .room worker.id job woken)
    (member : worker ∈ state.workers) (room : ¬worker.mailbox.isFull) :
    Resumes state popped ({ popped.deliver worker job with blocked := .nothing } : State).goOn
  | waits {worker : Worker} {job : Nat} {woken : Bool} (blocked : state.blocked = .room worker.id job woken)
    (member : worker ∈ state.workers) (full : worker.mailbox.isFull) :
    Resumes state popped { popped with blocked := .room worker.id job false }

inductive Happens (state : State) : State → Prop where
  | worker {worker : Worker} {after : State} (member : worker ∈ state.workers)
    (alive : worker.phase ≠ .dead) (takes : TakesTurn worker state after) : Happens state after
  | idle {after : State} (idles : Idles state after) : Happens state after
  | script {awake : List Token} {after : State} (first : state.awake = .script :: awake)
    (resumes : Resumes state { state with awake } after) : Happens state after

variable {state after : State} {token : Token} {awake : List Token}

theorem State.count_rest (first : state.awake = token :: awake) (other : token ≠ .script) :
    ({ state with awake } : State).tokens.count .script = state.tokens.count .script := by
  rw [State.tokens_eq first, List.singleton_append, List.count_cons_of_ne other]
  rfl

theorem Idles.mem (idles : Idles state after) {other : Worker} (inside : other ∈ after.workers) :
    ∃ worker ∈ state.workers, other.id = worker.id ∧ other.custody = worker.custody ∧
      other.phase.fate = worker.phase.fate := by
  obtain ⟨change, workers, kept⟩ := idles.workers
  rw [workers] at inside
  obtain ⟨worker, member, rfl⟩ := List.mem_map.mp inside
  obtain ⟨id, custody, fate, -⟩ := kept worker member
  exact ⟨worker, member, id, custody, fate⟩

theorem Idles.drops (first : state.awake = token :: awake) (other : token ≠ .script) :
    Idles state { state with awake } where
  workers := ⟨id, (List.map_id _).symm, fun _ _ => ⟨rfl, rfl, rfl, Iff.rfl⟩⟩
  assignments := rfl
  begun := rfl
  rest := rfl
  serial := rfl
  rouses := .workers rfl rfl (State.count_rest first other)

theorem Idles.rousesScript (first : state.awake = token :: awake) (other : token ≠ .script)
    (waits : state.alarm.isSome ∨ state.blocked = .jobs) :
    Idles state (State.wake .script { state with awake, alarm := none, blocked := .time }) :=
  { Idles.drops first other with
    rouses := by
      refine .script waits rfl rfl ?_
      rw [← State.count_rest first other]
      simp [State.tokens, State.wake, Nat.add_assoc] }

theorem Idles.rousesWorker (ids : (state.workers.map (·.id)).Nodup) (first : state.awake = token :: awake)
    (other : token ≠ .script) {worker : Worker} (member : worker ∈ state.workers) :
    Idles state ((({ state with awake } : State).setPhase worker.id
      (if worker.phase = .waiting then .expiring 3 else worker.phase)).wake (.worker worker.id)) :=
  { Idles.drops first other with
    workers := by
      refine ⟨_, rfl, fun other inside => ?_⟩
      by_cases same : other.id = worker.id
      · obtain rfl := List.inj_on_of_nodup_map ids inside member same
        by_cases waits : other.phase = .waiting <;>
          simp [waits, Worker.custody, Phase.inHand, Phase.fate]
      · simp [same]
    rouses := by
      refine .workers rfl rfl ?_
      rw [← State.count_rest first other]
      simp [State.tokens, State.wake, State.setPhase, State.changeWorker] }

theorem Idles.answerBell (ids : (state.workers.map (·.id)).Nodup) {serial : Nat}
    (first : state.awake = .bell serial :: awake) :
    Idles state (({ state with awake } : State).answerBell serial) := by
  unfold State.answerBell
  dsimp only
  split
  · rename_i own
    refine .rousesScript first nofun (Or.inl ?_)
    obtain ⟨alarm, set, -⟩ := (Option.any_eq_true _ _).mp own
    rw [set]
    rfl
  · split
    · exact .rousesWorker ids first nofun (List.mem_of_find?_eq_some ‹_›)
    · exact .drops first nofun

theorem Idles.answerReport (first : state.awake = .report :: awake) :
    Idles state ({ state with awake } : State).answerReport := by
  unfold State.answerReport
  dsimp only
  split
  · exact .rousesScript first nofun (Or.inr ‹_›)
  · exact .drops first nofun

theorem Idles.nextRound (none : state.awake = []) : Idles state state.nextRound := by
  obtain ⟨middle, rings, ⟨clock, same⟩⟩ : ∃ middle : State,
      state.nextRound = { middle.ring with awake := middle.ring.upcoming, upcoming := [] } ∧
        ∃ clock, middle = { state with clock } := by
    refine ⟨_, rfl, ?_⟩
    split
    · obtain ⟨clock, passed, -⟩ := state.passTime_eq
      exact ⟨clock, passed⟩
    · exact ⟨state.clock, rfl⟩
  have scripts : state.nextRound.tokens.count .script = state.tokens.count .script := by
    have kept := middle.count_ring (show ∀ serial, Token.script ≠ .bell serial from nofun)
    rw [same] at kept
    rw [rings, same]
    refine Eq.trans ?_ kept
    simp [State.tokens, State.ring_eq, none]
  rw [same, State.ring_eq] at rings
  rw [rings] at scripts ⊢
  refine ⟨⟨_, rfl, fun _ _ => ⟨rfl, rfl, rfl, Iff.rfl⟩⟩, rfl, rfl, rfl, rfl, .workers rfl ?_ scripts⟩
  exact Option.isSome_map

theorem Acts.popped {own : Nat} {kept : Option Worker} {ended began : List Nat}
    (acts : Acts own kept ended began { state with awake } after)
    (first : state.awake = token :: awake) (other : token ≠ .script) :
    Acts own kept ended began state after :=
  { acts with
    scripts := by
      rw [← State.count_rest first other]
      exact acts.scripts }

theorem State.resumes (state : State) (awake : List Token) :
    Resumes state { state with awake } ({ state with awake } : State).scriptTurn := by
  unfold State.scriptTurn
  split <;> rename_i blocked
  · exact .begins blocked
  · exact .goesOn (Or.inl blocked)
  · exact .goesOn (Or.inr blocked)
  · exact .forgets blocked
  · rename_i id job woken
    split
    · rename_i missing
      exact .misses blocked fun worker member => by simpa using List.find?_eq_none.mp missing worker member
    · rename_i worker found
      obtain rfl : worker.id = id := by simpa using List.find?_some found
      have member := List.mem_of_find?_eq_some found
      by_cases full : worker.mailbox.isFull
      · rw [State.tryDeliver, if_pos full]
        exact .waits blocked member full
      · rw [State.tryDeliver, if_neg full]
        exact .delivers blocked member full

theorem State.happens (ids : (state.workers.map (·.id)).Nodup) : Happens state state.turn := by
  unfold State.turn
  split
  · exact .idle (.nextRound ‹_›)
  · rename_i token awake first
    dsimp only
    split
    · exact .script first (state.resumes awake)
    · exact .idle (.answerBell ids first)
    · exact .idle (.answerReport first)
    · rename_i id
      split
      · rename_i worker found
        have member := List.mem_of_find?_eq_some found
        by_cases dead : worker.phase = .dead
        · have still : ({ state with awake } : State).workerTurn worker = { state with awake } := by
            rw [State.workerTurn, dead]
          rw [still]
          exact .idle (.drops first nofun)
        · obtain ⟨acts, custody, begun, fate, leaving, lifeless, gone⟩ :=
            State.takesTurn (show (({ state with awake } : State).workers.map (·.id)).Nodup from ids) member
          exact .worker member dead
            (.intro (acts.popped first nofun) custody begun fate leaving lifeless gone)
      · exact .idle (.drops first nofun)

/-! ### Workers are told to stop -/

def State.stopAll (state : State) : State :=
  state.workers.foldl (fun state worker => state.stopWorker worker) state

def Worker.told (patience : Patience) (worker : Worker) : Worker :=
  let turns (phase : Phase) : Worker := { worker with phase, alarm := none }
  match worker.phase with
  | .created => turns .stillborn
  | .looking => { worker with stopped := true }
  | .waiting | .expiring _ => turns .closing
  | .handed => if patience = .endless then turns .closing else worker
  | .running job => turns (.aborting job)
  | _ => worker

theorem Worker.told_keeps (patience : Patience) (worker : Worker) :
    (worker.told patience).id = worker.id ∧ (worker.told patience).custody = worker.custody := by
  cases phase : worker.phase with
  | handed => by_cases endless : patience = .endless <;>
      simp [Worker.told, phase, endless, Worker.custody, Phase.inHand]
  | _ => simp [Worker.told, phase, Worker.custody, Phase.inHand]

theorem State.stopWorker_eq (worker : Worker) (state : State) : ∃ (change : Worker → Worker)
    (woken : List Token), state.stopWorker worker = { state with
      workers := state.workers.map fun other => if other.id = worker.id then change other else other
      upcoming := state.upcoming ++ woken } ∧
    woken.count .script = 0 ∧ change worker = worker.told state.limits.patience := by
  have still : ∃ (change : Worker → Worker) (woken : List Token), state = { state with
      workers := state.workers.map fun other => if other.id = worker.id then change other else other
      upcoming := state.upcoming ++ woken } ∧ woken.count .script = 0 ∧ change worker = worker :=
    ⟨id, [], by simp, rfl, rfl⟩
  have quiet (change : Worker → Worker) : ∃ (other : Worker → Worker) (woken : List Token),
      state.changeWorker worker.id change = { state with
        workers := state.workers.map fun one => if one.id = worker.id then other one else one
        upcoming := state.upcoming ++ woken } ∧ woken.count .script = 0 ∧ other worker = change worker :=
    ⟨change, [], by rw [List.append_nil]; rfl, rfl, rfl⟩
  unfold State.stopWorker Worker.told
  dsimp only
  cases phase : worker.phase with
  | created => exact quiet _
  | looking =>
    obtain ⟨change, woken, same, silent, told⟩ := quiet fun worker => { worker with stopped := true }
    exact ⟨change, woken, same, silent, told.trans (by rw [phase])⟩
  | waiting => exact ⟨_, [.worker worker.id], rfl, rfl, rfl⟩
  | handed =>
    dsimp only
    by_cases endless : state.limits.patience = .endless
    · rw [if_pos endless, if_pos endless]
      exact quiet _
    · rw [if_neg endless, if_neg endless]
      exact still
  | running job =>
    dsimp only
    split
    · exact ⟨_, [.worker worker.id], rfl, rfl, rfl⟩
    · exact quiet _
  | expiring turns => exact quiet _
  | _ => exact still

theorem stopAll_foldl (todo : List Worker) (state : State) : ∃ (workers : List Worker)
    (woken : List Token), todo.foldl (fun state worker => state.stopWorker worker) state =
      { state with workers, upcoming := state.upcoming ++ woken } ∧ woken.count .script = 0 ∧
    ∀ told : List Worker, state.workers = told ++ todo → (state.workers.map (·.id)).Nodup →
      workers = told ++ todo.map (Worker.told state.limits.patience) := by
  induction todo generalizing state with
  | nil => exact ⟨state.workers, [], by simp, rfl, fun told all _ => all⟩
  | cons worker todo ih =>
    obtain ⟨change, first, stops, silent, same⟩ := state.stopWorker_eq worker
    obtain ⟨workers, later, rest, quiet, all⟩ := ih (state.stopWorker worker)
    rw [List.foldl_cons, rest]
    refine ⟨workers, first ++ later, by rw [stops]; simp, by simp [silent, quiet], ?_⟩
    intro told split ids
    have member : worker ∈ state.workers := by simp [split]
    -- no other worker has its number
    have replaced : (state.stopWorker worker).workers =
        (told ++ [worker.told state.limits.patience]) ++ todo := by
      rw [stops]
      dsimp only
      rw [workers_changeWorker ids member, same, split]
      rw [split, List.map_append, List.map_cons] at ids
      obtain ⟨-, ids, apart⟩ := List.nodup_append.mp ids
      have before : ∀ other ∈ told, other.id ≠ worker.id := fun other inside =>
        apart _ (List.mem_map_of_mem inside) _ List.mem_cons_self
      have after : ∀ other ∈ todo, other.id ≠ worker.id := fun other inside equal =>
        (List.nodup_cons.mp ids).1 (equal ▸ List.mem_map_of_mem inside)
      rw [List.map_append, List.map_cons, if_pos rfl,
        List.map_congr_left fun other inside => if_neg (before other inside),
        List.map_congr_left fun other inside => if_neg (after other inside)]
      simp
    have limits : (state.stopWorker worker).limits = state.limits := by rw [stops]
    have ids' : ((state.stopWorker worker).workers.map (·.id)).Nodup := by
      have id := (worker.told_keeps state.limits.patience).1
      rw [replaced]
      rw [split] at ids
      simpa [id] using ids
    rw [all _ replaced ids', limits]
    simp

theorem State.stopAll_eq (state : State) : ∃ (workers : List Worker) (woken : List Token),
    state.stopAll = { state with workers, upcoming := state.upcoming ++ woken } ∧
    woken.count .script = 0 ∧ ((state.workers.map (·.id)).Nodup →
      workers = state.workers.map (Worker.told state.limits.patience)) := by
  obtain ⟨workers, woken, same, silent, told⟩ := stopAll_foldl state.workers state
  exact ⟨workers, woken, same, silent, told [] rfl⟩

/-! ### The script is woken -/

/-- How many turns of the script may be due. One that has not begun is awake without waiting for
anything; there are no workers then. -/
def State.cues (state : State) : Nat :=
  match state.blocked with
  | .nothing => if state.workers.isEmpty then 1 else 0
  | .time => if state.alarm.isSome then 0 else 1
  | .room _ _ woken => woken.toNat
  | .jobs => 0
  | .workers => if state.allGone then 1 else 0

structure Cued (state : State) : Prop where
  cues : state.tokens.count .script ≤ state.cues
  alarm : state.alarm.isSome → state.blocked = .time ∨ state.blocked = .jobs

variable {worker : Worker}

theorem Cued.initial (limits : Limits) (clock : Clock) (rest : List Action) :
    Cued { limits, clock, rest } := ⟨Nat.le_refl 1, nofun⟩

theorem Cued.idles (cued : Cued state) (idles : Idles state after) : Cued after := by
  obtain ⟨⟨change, workers, kept⟩, -, -, -, -, rouses⟩ := idles
  have cues := cued.cues
  cases rouses with
  | workers blocked alarm scripts =>
    have gone : after.allGone = state.allGone := by
      unfold State.allGone
      rw [workers, List.all_map]
      apply Bool.eq_iff_iff.mpr
      simp only [List.all_eq_true, Function.comp_apply, decide_eq_true_eq]
      exact forall₂_congr fun worker member => (kept worker member).2.2.2
    have empty : after.workers.isEmpty = state.workers.isEmpty := by rw [workers]; simp
    refine ⟨?_, by rw [alarm, blocked]; exact cued.alarm⟩
    rw [scripts]
    unfold State.cues at cues ⊢
    rwa [blocked, alarm, gone, empty]
  | script waits blocked alarm scripts =>
    refine ⟨?_, by rw [alarm]; nofun⟩
    have asleep : state.cues = 0 := by
      unfold State.cues
      rcases waits with set | jobs
      · rcases cued.alarm set with time | jobs
        · rw [time]
          exact if_pos set
        · rw [jobs]
      · rw [jobs]
    rw [scripts, State.cues, blocked, alarm]
    change _ ≤ 1
    omega

theorem State.noteGone_eq (state : State) : ∃ woken, state.noteGone = { state with
    upcoming := state.upcoming ++ woken } ∧
      (woken = [] ∨ woken = [.script] ∧ state.blocked = .workers ∧ state.allGone) := by
  unfold State.noteGone
  split
  · rename_i both
    rw [Bool.and_eq_true, decide_eq_true_eq] at both
    exact ⟨[.script], rfl, Or.inr ⟨rfl, both⟩⟩
  · exact ⟨[], by rw [List.append_nil], Or.inl rfl⟩

theorem Cued.acts {kept : Option Worker} {ended began : List Nat} {middle : State} (cued : Cued state)
    (member : worker ∈ state.workers) (alive : worker.phase ≠ .dead)
    (acts : Acts worker.id kept ended began state middle) :
    Cued middle ∧ (middle.blocked = .workers → middle.tokens.count .script = 0) := by
  have busy : state.allGone = false := by
    refine Bool.eq_false_iff.mpr fun all => alive ?_
    exact of_decide_eq_true (List.all_eq_true.mp all worker member)
  have some : state.workers.isEmpty = false :=
    List.isEmpty_eq_false_iff.mpr (List.ne_nil_of_mem member)
  have cues := cued.cues
  have scripts := acts.scripts
  have still (away : ∀ id job woken, state.blocked ≠ .room id job woken) :
      middle.blocked = state.blocked ∧ middle.tokens.count .script = state.tokens.count .script := by
    have same := acts.blocked.resolve_right fun ⟨job, room, _⟩ => away _ _ _ room
    rw [same] at scripts
    exact ⟨same, Nat.add_right_cancel scripts⟩
  have waits : middle.tokens.count .script ≤ middle.cues ∧
      (middle.blocked = .workers → middle.tokens.count .script = 0) := by
    unfold State.cues at cues ⊢
    cases before : state.blocked with
    | room id job woken =>
      rw [before] at cues scripts
      rcases acts.blocked with same | ⟨other, same, now⟩
      · rw [same, before] at scripts ⊢
        rw [Nat.add_right_cancel scripts]
        exact ⟨cues, nofun⟩
      · rw [before] at same
        cases same
        rw [now] at scripts ⊢
        change _ + 0 = _ + 1 at scripts
        change _ ≤ 0 at cues
        change _ ≤ 1 ∧ _
        exact ⟨by omega, nofun⟩
    | time =>
      obtain ⟨same, scripts⟩ := still (by simp [before])
      rw [before] at cues
      rw [scripts, same, before, acts.alarm]
      exact ⟨cues, nofun⟩
    | nothing | jobs | workers =>
      obtain ⟨same, scripts⟩ := still (by simp [before])
      have asleep : state.tokens.count .script = 0 := by
        rw [before] at cues
        simpa [busy, some] using cues
      rw [scripts, asleep]
      exact ⟨Nat.zero_le _, fun _ => rfl⟩
  refine ⟨⟨waits.1, fun set => ?_⟩, waits.2⟩
  rw [acts.alarm] at set
  have before := cued.alarm set
  rw [(still (by rcases before with same | same <;> simp [same])).1]
  exact before

theorem Cued.noteGone (cued : Cued state)
    (asleep : state.blocked = .workers → state.tokens.count .script = 0) : Cued state.noteGone := by
  obtain ⟨woken, noted, reason⟩ := state.noteGone_eq
  rw [noted]
  refine ⟨?_, cued.alarm⟩
  rcases reason with rfl | ⟨rfl, blocked, all⟩
  · rw [List.append_nil]
    exact cued.cues
  · have asleep := asleep blocked
    simp only [State.tokens, List.count_append] at asleep
    unfold State.cues
    dsimp only
    rw [blocked]
    change _ ≤ if state.allGone then 1 else 0
    simp [State.tokens, all]
    omega

theorem Cued.takesTurn (cued : Cued state) (member : worker ∈ state.workers)
    (alive : worker.phase ≠ .dead) (takes : TakesTurn worker state after) : Cued after := by
  obtain ⟨acts, -, -, -, -, -, gone⟩ := takes
  obtain ⟨next, asleep⟩ := cued.acts member alive acts
  rcases gone with rfl | rfl
  · exact next
  · exact next.noteGone asleep

/-! ### The script begins an action -/

/-- The script is about to begin an action. -/
structure Poised (state : State) : Prop where
  asleep : state.tokens.count .script = 0
  blocked : state.blocked = .nothing
  alarm : state.alarm = none

theorem Poised.cued (poised : Poised state) : Cued state :=
  ⟨by rw [poised.asleep]; exact Nat.zero_le _, by rw [poised.alarm]; nofun⟩

theorem State.workerFor_eq (key : SessionKey) (state : State) : ∃ (workers : List Worker)
    (woken : List Token) (serial : Nat), (state.workerFor key).2 = { state with
      serial, workers, upcoming := state.upcoming ++ woken } ∧ woken.count .script = 0 := by
  unfold State.workerFor
  split
  · exact ⟨state.workers, [], state.serial, by rw [List.append_nil], rfl⟩
  · exact ⟨_, [.worker state.serial], _, rfl, rfl⟩

theorem State.tryDeliver_frame (worker : Worker) (job : Nat) (state : State) :
    ∃ (workers : List Worker) (woken : List Token) (blocked : Blocked),
      (state.tryDeliver worker job).2 = { state with
        workers, blocked, upcoming := state.upcoming ++ woken } ∧ woken.count .script = 0 ∧
      blocked = if (state.tryDeliver worker job).1 then .nothing else .room worker.id job false := by
  unfold State.tryDeliver State.deliver
  split
  · exact ⟨state.workers, [], .room worker.id job false, by rw [List.append_nil], rfl, rfl⟩
  · dsimp only
    split
    · exact ⟨_, [.worker worker.id], _, rfl, rfl, rfl⟩
    · exact ⟨_, [], _, by rw [List.append_nil]; rfl, rfl, rfl⟩

theorem Poised.delivers (asleep : state.tokens.count .script = 0) (alarm : state.alarm = none)
    (worker : Worker) (job : Nat) : if (state.tryDeliver worker job).1 then Poised (state.tryDeliver worker job).2
      else Cued (state.tryDeliver worker job).2 := by
  obtain ⟨workers, woken, blocked, same, silent, reason⟩ := state.tryDeliver_frame worker job
  have scripts : (state.tryDeliver worker job).2.tokens.count .script = 0 := by
    rw [same]
    simp only [State.tokens, List.count_append] at asleep ⊢
    omega
  split
  · rename_i finished
    rw [if_pos finished] at reason
    exact ⟨scripts, by rw [same]; exact reason, by rw [same]; exact alarm⟩
  · refine ⟨by rw [scripts]; exact Nat.zero_le _, ?_⟩
    rw [same]
    simp [alarm]

theorem State.begin_submit (assignment : Assignment) (state : State) :
    let submitted := { state with assignments := state.assignments ++ [assignment] }
    state.begin (.submit assignment) = State.tryDeliver (submitted.workerFor assignment.key).1
      state.assignments.length (submitted.workerFor assignment.key).2 := rfl

theorem Poised.begins (poised : Poised state) (action : Action) :
    if (state.begin action).1 then Poised (state.begin action).2
      else Cued (state.begin action).2 := by
  have cued := poised.cued
  obtain ⟨asleep, blocked, alarm⟩ := poised
  cases action with
  | submit assignment =>
    obtain ⟨workers, woken, serial, same, silent⟩ := State.workerFor_eq assignment.key
      { state with assignments := state.assignments ++ [assignment] }
    rw [State.begin_submit]
    refine Poised.delivers ?_ (by rw [same]; exact alarm) _ _
    rw [same]
    simp only [State.tokens, List.count_append] at asleep ⊢
    omega
  | sleep seconds =>
    unfold State.begin
    dsimp only
    split
    · refine ⟨?_, fun _ => Or.inl rfl⟩
      simp only [State.tokens, List.count_append] at asleep
      simp [State.tokens, State.wake, State.cues, alarm]
      omega
    · exact ⟨asleep.trans_le (Nat.zero_le _), fun _ => Or.inl rfl⟩
  | stop =>
    obtain ⟨workers, woken, same, silent, -⟩ := state.stopAll_eq
    unfold State.begin
    dsimp only
    split
    · exact ⟨asleep, blocked, alarm⟩
    · change Cued { state.stopAll with blocked := .workers }
      rw [same]
      refine ⟨?_, by simp [alarm]⟩
      simp only [State.tokens, List.count_append] at asleep ⊢
      omega
  | join =>
    unfold State.begin
    dsimp only
    split
    · exact ⟨asleep, blocked, alarm⟩
    · split
      · refine ⟨?_, fun _ => Or.inr rfl⟩
        simp only [State.tokens, List.count_append] at asleep
        simp [State.tokens, State.wake, State.cues]
        omega
      · exact ⟨asleep.trans_le (Nat.zero_le _), fun _ => Or.inr rfl⟩

theorem Poised.runs (poised : Poised state) (actions : List Action) :
    Cued (State.runActions actions state) := by
  induction actions generalizing state with
  | nil => exact ⟨poised.cued.cues, poised.cued.alarm⟩
  | cons action rest ih =>
    have begins := poised.begins action
    unfold State.runActions
    cases result : state.begin action with
    | mk finished after =>
      rw [result] at begins
      cases finished with
      | true => exact ih ⟨begins.asleep, begins.blocked, begins.alarm⟩
      | false => exact ⟨begins.cues, begins.alarm⟩

theorem Cued.popped (cued : Cued state) (first : state.awake = .script :: awake) :
    ({ state with awake } : State).tokens.count .script = 0 := by
  have cues := cued.cues
  have once : state.cues ≤ 1 := by
    unfold State.cues
    split
    · split <;> simp
    · split <;> simp
    · exact Bool.toNat_le _
    · simp
    · split <;> simp
  rw [State.tokens_eq first, List.singleton_append, List.count_cons_self] at cues
  change (awake ++ state.upcoming).count _ = 0
  omega

theorem Poised.goesOn (asleep : state.tokens.count .script = 0) : Cued state.goOn := by
  unfold State.goOn
  refine Poised.runs ?_ _
  exact ⟨asleep, rfl, rfl⟩

theorem Cued.silent (cued : Cued state) (time : state.blocked ≠ .time) (jobs : state.blocked ≠ .jobs) :
    state.alarm = none :=
  Option.not_isSome_iff_eq_none.mp fun set => (cued.alarm set).elim time jobs

theorem Cued.resumes (cued : Cued state) (first : state.awake = .script :: awake)
    (resumes : Resumes state { state with awake } after) : Cued after := by
  have asleep := cued.popped first
  cases resumes with
  | begins blocked =>
    exact Poised.runs ⟨asleep, blocked, cued.silent (by simp [blocked]) (by simp [blocked])⟩ _
  | goesOn blocked => exact Poised.goesOn asleep
  | forgets blocked => exact Poised.goesOn asleep
  | misses blocked gone => exact Poised.goesOn asleep
  | @delivers worker job woken blocked member room =>
    have silent := cued.silent (by simp [blocked]) (by simp [blocked])
    have delivers := Poised.delivers asleep silent worker job
    rw [State.tryDeliver, if_neg room] at delivers
    exact Poised.goesOn delivers.asleep
  | @waits worker job woken blocked member full =>
    have silent := cued.silent (by simp [blocked]) (by simp [blocked])
    have waits := Poised.delivers asleep silent worker job
    rw [State.tryDeliver, if_pos full] at waits
    exact waits

theorem Cued.turn (cued : Cued state) (ids : (state.workers.map (·.id)).Nodup) : Cued state.turn := by
  cases State.happens ids with
  | worker member alive takes => exact cued.takesTurn member alive takes
  | idle idles => exact cued.idles idles
  | script first resumes => exact cued.resumes first resumes

end Parley.Dispatcher
