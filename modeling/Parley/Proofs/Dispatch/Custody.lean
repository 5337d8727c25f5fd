import Parley.Proofs.Dispatch.Parts

/-!
In whose hands the jobs are: a worker has the one that it has taken out of its mailbox and those that are
still there. In its turn it ends some of them, the first ones first, and keeps the others.
-/

namespace Parley.Dispatcher

def Phase.inHand : Phase → List Nat
  | .took job | .ready job | .running job | .aborting job => [job]
  | _ => []

def Worker.custody (worker : Worker) : List Nat := worker.phase.inHand ++ worker.mailbox.queue

/-- What is to be expected of a worker. -/
inductive Fate where
  | unborn
  | alive
  /-- It goes in its next turn, and cancels what it has. -/
  | leaving
  /-- It never does anything. -/
  | lifeless
  deriving DecidableEq

def Phase.fate : Phase → Fate
  | .created => .unborn
  | .stillborn | .dead => .lifeless
  | .aborting _ | .closing => .leaving
  | _ => .alive

/-- A worker has acted: it has changed or gone, and some jobs have begun and others ended. -/
structure Acts (own : Nat) (kept : Option Worker) (ended began : List Nat) (state after : State) :
    Prop where
  id : ∀ worker ∈ kept, worker.id = own
  workers : after.workers =
    state.workers.flatMap fun other => if other.id = own then kept.toList else [other]
  isOpen : ∀ job, after.isOpen job ↔ state.isOpen job ∧ job ∉ ended
  length : after.assignments.length = state.assignments.length
  begun : after.begun = state.begun ++ began
  rest : after.rest = state.rest
  alarm : after.alarm = state.alarm
  serial : state.serial ≤ after.serial
  blocked : after.blocked = state.blocked ∨
    ∃ job, state.blocked = .room own job false ∧ after.blocked = .room own job true
  scripts : after.tokens.count .script + state.blocked.summons =
    state.tokens.count .script + after.blocked.summons

theorem State.isOpen_modify (job other : Nat) (change : Assignment → Assignment) (state : State) :
    ({ state with assignments := state.assignments.modify job change } : State).isOpen other =
      (state.assignments[other]?).any fun own =>
        (if job = other then change own else own).outcome.isNone := by
  unfold State.isOpen
  dsimp only
  rw [List.getElem?_modify]
  cases state.assignments[other]? with
  | none => rfl
  | some own => by_cases same : job = other <;> simp [same]

namespace Acts

variable {own : Nat} {kept : Option Worker} {worker : Worker} {ended began : List Nat}
  {state after : State}

theorem refl (ids : (state.workers.map (·.id)).Nodup) (member : worker ∈ state.workers) :
    Acts worker.id (some worker) [] [] state state where
  id _ same := congrArg Worker.id (Option.some.inj same).symm
  workers := by
    have same : ∀ other ∈ state.workers,
        (if other.id = worker.id then (some worker).toList else [other]) = [other] := by
      intro other inside
      split
      · rw [List.inj_on_of_nodup_map ids inside member ‹_›]
        rfl
      · rfl
    rw [List.flatMap_congr same, List.flatMap_singleton']
  isOpen job := by simp
  length := rfl
  begun := (List.append_nil _).symm
  rest := rfl
  alarm := rfl
  serial := Nat.le_refl _
  blocked := Or.inl rfl
  scripts := rfl

theorem change (acts : Acts own (some worker) ended began state after) (change : Worker → Worker)
    (same : (change worker).id = worker.id) :
    Acts own (some (change worker)) ended began state (after.changeWorker own change) :=
  { acts with
    id := fun _ equal => Option.some.inj equal ▸ same.trans (acts.id worker rfl)
    workers := by
      unfold State.changeWorker
      dsimp only
      rw [acts.workers, List.map_flatMap]
      apply List.flatMap_congr
      intro other _
      by_cases equal : other.id = own
      · simp [equal, acts.id worker rfl]
      · simp [equal] }

theorem setPhase (acts : Acts own (some worker) ended began state after) (phase : Phase) :
    Acts own (some { worker with phase, alarm := none }) ended began state (after.setPhase own phase) :=
  acts.change (fun worker => { worker with phase, alarm := none }) rfl

theorem wake (acts : Acts own kept ended began state after) (id : Nat) :
    Acts own kept ended began state (after.wake (.worker id)) :=
  { acts with
    scripts := by
      have scripts := acts.scripts
      simpa [State.tokens, State.wake] using scripts }

theorem later (acts : Acts own kept ended began state after) (seconds : Rat) :
    Acts own kept ended began state (after.alarmIn seconds).2 :=
  { acts with serial := Nat.le_succ_of_le acts.serial }

theorem noteRoom (acts : Acts own kept ended began state after) :
    Acts own kept ended began state (after.noteRoom own) := by
  obtain ⟨blocked, woken, notes, noted⟩ := State.noteRoom_eq own after
  rw [noted]
  have summons := notes.summons
  refine { acts with blocked := ?_, scripts := ?_ }
  · rcases notes.cases with same | ⟨job, before, now⟩
    · rw [same]
      exact acts.blocked
    · rcases acts.blocked with same | ⟨other, -, already⟩
      · exact Or.inr ⟨job, same ▸ before, now⟩
      · rw [already] at before
        cases before
  · have scripts := acts.scripts
    simp only [State.tokens, List.count_append] at scripts ⊢
    omega

theorem changeJob (acts : Acts own kept ended began state after) (job : Nat)
    (change : Assignment → Assignment) (same : ∀ own, (change own).outcome = own.outcome) :
    Acts own kept ended began state (after.changeJob job change) :=
  { acts with
    isOpen := fun other => by
      have equal : (after.changeJob job change).isOpen other = after.isOpen other := by
        refine (State.isOpen_modify job other change after).trans ?_
        unfold State.isOpen
        congr 1
        funext own
        split
        · rw [same]
        · rfl
      rw [equal]
      exact acts.isOpen other
    length := (List.length_modify ..).trans acts.length }

theorem openJob (acts : Acts own kept ended began state after) (job : Nat) :
    Acts own kept ended (began ++ [job]) state (after.openJob job) :=
  { acts.changeJob job (fun own => { own with startedAt := some after.now }) fun _ => rfl with
    begun := by
      change after.begun ++ [job] = _
      rw [acts.begun, List.append_assoc] }

theorem settle (acts : Acts own kept ended began state after) (job : Nat) (outcome : Outcome Nat) :
    Acts own kept (ended ++ [job]) began state (after.settle job outcome) := by
  obtain ⟨reports, settled, reported⟩ := State.settle_eq job outcome after
  have silent : reports.count .script = 0 := by
    rcases reported with rfl | ⟨rfl, -⟩ <;> rfl
  rw [settled]
  refine { acts with isOpen := fun other => ?_, length := ?_, scripts := ?_ }
  · have open_eq := (State.isOpen_modify job other
      (fun own => { own with outcome := outcome.settle own.outcome }) after)
    have ends (own : Assignment) : (outcome.settle own.outcome).isNone = false := by
      unfold Outcome.settle
      cases own.outcome <;> rfl
    have before := acts.isOpen other
    change State.isOpen other { after with assignments := _ } = true ↔ _
    rw [open_eq, List.mem_append, List.mem_singleton, not_or, ← and_assoc, ← before]
    unfold State.isOpen
    by_cases same : job = other
    · simp [same, ends]
    · simp [same, Ne.symm same]
  · exact (List.length_modify ..).trans acts.length
  · rw [← acts.scripts]
    simp only [State.tokens, List.count_append, silent, Nat.add_zero]

theorem settleAll (acts : Acts own kept ended began state after) (jobs : List Nat) :
    Acts own kept (ended ++ jobs) began state
      (jobs.foldl (fun state job => state.settle job .cancelled) after) := by
  induction jobs generalizing ended after with
  | nil => rwa [List.append_nil]
  | cons job jobs ih =>
    have rest := ih (acts.settle job .cancelled)
    rwa [List.append_assoc, List.singleton_append] at rest

theorem complete (acts : Acts own kept ended began state after) (job : Nat) :
    Acts own kept (ended ++ [job]) began state (after.complete job) := by
  have marked := acts.changeJob job (fun own => { own with endedAt := some after.now }) fun _ => rfl
  unfold State.complete
  dsimp only
  split
  · exact marked.settle job _
  · rename_i missing
    refine { marked with isOpen := fun other => ?_ }
    rw [marked.isOpen, List.mem_append, List.mem_singleton, not_or]
    refine ⟨fun holds => ⟨holds.1, holds.2, fun same => ?_⟩, fun holds => ⟨holds.1, holds.2.1⟩⟩
    have still := (marked.isOpen other).mpr holds
    rw [same, State.isOpen, missing] at still
    cases still

theorem leave (acts : Acts own (some worker) ended began state after) :
    ∃ gone, Acts own none (ended ++ worker.mailbox.queue) began state gone ∧
      after.exit worker = gone.noteGone := by
  have id := acts.id worker rfl
  have left : Acts own none ended began state
      { after with workers := after.workers.filter (·.id ≠ own) } :=
    { acts with
      id := nofun
      workers := by
        dsimp only
        rw [acts.workers, List.filter_flatMap]
        apply List.flatMap_congr
        intro other _
        by_cases equal : other.id = own
        · simp [equal, id]
        · simp [equal] }
  refine ⟨_, left.noteRoom.settleAll worker.mailbox.queue, ?_⟩
  unfold State.exit
  rw [id]

end Acts

/-! ### Turns -/

/-- A worker that has these jobs ends some of them and keeps the others, or goes. -/
inductive Handles (own : Nat) (jobs : List Nat) (state after : State) : Prop where
  | intro {kept : Option Worker} {ended began : List Nat} {middle : State}
    (acts : Acts own kept ended began state middle)
    (custody : jobs = ended ++ kept.elim [] Worker.custody)
    (begun : ∀ job ∈ began, job ∈ jobs)
    (alive : ∀ worker ∈ kept, worker.phase.fate = .alive)
    (gone : after = middle ∨ after = middle.noteGone)

namespace Acts

variable {own job : Nat} {worker : Worker} {ended began : List Nat} {state after : State}

theorem goesOn {kept : Worker} (acts : Acts own (some kept) ended began state after) {jobs : List Nat}
    (custody : kept.custody = jobs) (alive : kept.phase.fate = .alive)
    (begun : ∀ job ∈ began, job ∈ ended ++ jobs) : Handles own (ended ++ jobs) state after :=
  .intro acts (congrArg (ended ++ ·) custody.symm) begun
    (fun _ same => Option.some.inj same ▸ alive) (Or.inl rfl)

theorem exits (acts : Acts own (some worker) ended began state after)
    (begun : ∀ job ∈ began, job ∈ ended ++ worker.mailbox.queue) :
    Handles own (ended ++ worker.mailbox.queue) state (after.exit worker) := by
  obtain ⟨gone, left, same⟩ := acts.leave
  exact .intro left (List.append_nil _).symm begun nofun (Or.inr same)

theorem runs (acts : Acts own (some worker) ended began state after) (duration : Rat)
    (begun : ∀ other ∈ began, other ∈ ended ++ job :: worker.mailbox.queue) :
    Handles own (ended ++ job :: worker.mailbox.queue) state (after.runFor own job duration) := by
  have running := (acts.openJob job).setPhase (.running job)
  have begun' : ∀ other ∈ began ++ [job], other ∈ ended ++ job :: worker.mailbox.queue := by
    intro other member
    rcases List.mem_append.mp member with old | new
    · exact begun other old
    · rw [List.mem_singleton.mp new]
      simp
  unfold State.runFor
  dsimp only
  split
  · exact (running.wake own).goesOn rfl rfl begun'
  · exact ((running.later duration).change _ rfl).goesOn rfl rfl begun'

theorem takesOrWaits (acts : Acts own (some worker) ended began state after)
    (begun : ∀ other ∈ began, other ∈ ended ++ worker.mailbox.queue) :
    Handles own (ended ++ worker.mailbox.queue) state (after.takeOrWait worker) := by
  have exits := acts.exits begun
  obtain rfl : worker.id = own := acts.id worker rfl
  unfold State.takeOrWait Mailbox.take?
  cases queue : worker.mailbox.queue with
  | nil =>
    rw [queue] at begun exits
    dsimp only
    split
    · exact exits
    · exact (acts.change (fun worker => { worker with phase := .waiting }) rfl).goesOn queue rfl begun
  | cons job rest =>
    rw [queue] at begun
    let taken : Worker := { worker with
      mailbox := { worker.mailbox with queue := rest }, phase := .took job, alarm := none
      stopped := false }
    exact (((acts.change (fun _ => taken) rfl).noteRoom).wake worker.id).goesOn rfl rfl begun

theorem looksAtOnce (acts : Acts own (some worker) ended began state after)
    (begun : ∀ other ∈ began, other ∈ ended ++ worker.mailbox.queue) :
    Handles own (ended ++ worker.mailbox.queue) state (after.lookAtOnce worker) := by
  obtain rfl : worker.id = own := acts.id worker rfl
  unfold State.lookAtOnce Mailbox.take?
  cases queue : worker.mailbox.queue with
  | nil =>
    rw [queue] at begun
    exact (acts.change (fun worker => { worker with phase := .waiting }) rfl).goesOn queue rfl begun
  | cons job rest =>
    rw [queue] at begun
    let taken : Worker := { worker with
      mailbox := { worker.mailbox with queue := rest }, phase := .ready job }
    have takes := (acts.change (fun _ => taken) rfl).noteRoom
    dsimp only
    split
    · exact takes.runs _ begun
    · exact (takes.wake worker.id).goesOn rfl rfl begun

theorem looks (acts : Acts own (some worker) ended began state after)
    (begun : ∀ other ∈ began, other ∈ ended ++ worker.mailbox.queue) :
    Handles own (ended ++ worker.mailbox.queue) state (after.look worker) := by
  have exits := acts.exits begun
  have looksAtOnce := acts.looksAtOnce begun
  obtain rfl : worker.id = own := acts.id worker rfl
  unfold State.look
  dsimp only
  split
  · exact looksAtOnce
  · exact exits
  · split
    · exact ((acts.setPhase (.expiring 2)).wake worker.id).goesOn rfl rfl begun
    · exact (((acts.later _).change _ rfl).wake worker.id).goesOn rfl rfl begun

theorem finishes (acts : Acts own (some worker) ended began state after)
    (begun : ∀ other ∈ began, other ∈ ended ++ job :: worker.mailbox.queue) :
    Handles own (ended ++ job :: worker.mailbox.queue) state (after.finish worker job) := by
  have queue := (done_mailbox worker.mailbox).2
  have ends := (acts.change
    (fun other => { other with mailbox := worker.mailbox.done?.getD worker.mailbox }) rfl).complete job
  have looks := ends.looks (by simpa [queue] using begun)
  obtain rfl : worker.id = own := acts.id worker rfl
  unfold State.finish
  simpa [queue] using looks

theorem starts (acts : Acts own (some worker) ended began state after)
    (begun : ∀ other ∈ began, other ∈ ended ++ job :: worker.mailbox.queue) :
    Handles own (ended ++ job :: worker.mailbox.queue) state (after.start worker job) := by
  have runs (duration : Rat) := acts.runs duration begun
  obtain rfl : worker.id = own := acts.id worker rfl
  unfold State.start
  split
  · exact runs _
  · refine (acts.openJob job).finishes fun other member => ?_
    rcases List.mem_append.mp member with old | new
    · exact begun other old
    · rw [List.mem_singleton.mp new]
      simp

end Acts

/-- What becomes of a worker that does not begin any more, and of one that does. -/
def Fate.next : Fate → Fate
  | .unborn | .alive => .alive
  | .leaving => .leaving
  | .lifeless => .lifeless

/-- A worker takes a turn: it ends some of its jobs and keeps the others, or goes. -/
inductive TakesTurn (worker : Worker) (state after : State) : Prop where
  | intro {kept : Option Worker} {ended began : List Nat} {middle : State}
    (acts : Acts worker.id kept ended began state middle)
    (custody : worker.custody = ended ++ kept.elim [] Worker.custody)
    (begun : ∀ job ∈ began, job ∈ worker.custody)
    (fate : ∀ other ∈ kept, other.phase.fate = worker.phase.fate.next)
    (leaving : worker.phase.fate = .leaving → kept = none ∧ began = [])
    (lifeless : worker.phase.fate = .lifeless →
      ended = [] ∧ began = [] ∧ middle.blocked = state.blocked)
    (gone : after = middle ∨ after = middle.noteGone)

variable {worker : Worker} {state after : State} {phase : Phase}

theorem Worker.custody_eq (now : worker.phase = phase) :
    worker.custody = phase.inHand ++ worker.mailbox.queue := by rw [Worker.custody, now]

theorem Handles.takesTurn (handles : Handles worker.id (phase.inHand ++ worker.mailbox.queue) state after)
    (now : worker.phase = phase) (alive : phase.fate.next = .alive) :
    TakesTurn worker state after := by
  rw [← Worker.custody_eq now] at handles
  rw [← now] at alive
  obtain ⟨acts, custody, begun, kept, gone⟩ := handles
  refine .intro acts custody begun (fun other same => (kept other same).trans alive.symm) ?_ ?_ gone
  · intro same
    rw [same] at alive
    cases alive
  · intro same
    rw [same] at alive
    cases alive

theorem Acts.leaves {ended : List Nat} {middle : State}
    (acts : Acts worker.id (some worker) ended [] state middle) (now : worker.phase = phase)
    (inHand : phase.inHand = ended) (leaving : phase.fate = .leaving) :
    TakesTurn worker state (middle.exit worker) := by
  obtain ⟨gone, left, same⟩ := acts.leave
  refine .intro left ?_ nofun nofun (fun _ => ⟨rfl, rfl⟩) (fun lifeless => ?_) (Or.inr same)
  · rw [Worker.custody_eq now, inHand]
    exact (List.append_nil _).symm
  · rw [now, leaving] at lifeless
    cases lifeless

theorem State.takesTurn (ids : (state.workers.map (·.id)).Nodup) (member : worker ∈ state.workers) :
    TakesTurn worker state (state.workerTurn worker) := by
  have acts := Acts.refl ids member
  unfold State.workerTurn
  cases now : worker.phase with
  | created => exact (acts.looks nofun).takesTurn now rfl
  | stillborn =>
    have custody : worker.custody = worker.mailbox.queue := Worker.custody_eq now
    exact .intro (acts.setPhase .dead) custody nofun
      (fun _ same => by rw [now, ← Option.some.inj same]; rfl) (fun leaving => by simp [now, Phase.fate] at leaving)
      (fun _ => ⟨rfl, rfl, rfl⟩) (Or.inr rfl)
  | looking => exact (acts.takesOrWaits nofun).takesTurn now rfl
  | waiting => exact (acts.goesOn (Worker.custody_eq now) (by rw [now]; rfl) nofun).takesTurn now rfl
  | handed =>
    dsimp only
    split
    · exact (acts.looksAtOnce nofun).takesTurn now rfl
    · exact (acts.takesOrWaits nofun).takesTurn now rfl
  | took job =>
    have ready : Handles worker.id (job :: worker.mailbox.queue) state _ :=
      ((acts.setPhase (.ready job)).wake worker.id).goesOn rfl rfl nofun
    exact ready.takesTurn now rfl
  | ready job => exact (acts.starts nofun).takesTurn now rfl
  | running job => exact (acts.finishes nofun).takesTurn now rfl
  | aborting job => exact (acts.settle job .cancelled).leaves now rfl rfl
  | expiring turns =>
    cases turns with
    | zero =>
      dsimp only
      split
      · exact (acts.exits nofun).takesTurn now rfl
      · exact (acts.looks nofun).takesTurn now rfl
    | succ turns =>
      have expiring : Handles worker.id worker.mailbox.queue state _ :=
        ((acts.setPhase (.expiring turns)).wake worker.id).goesOn rfl rfl nofun
      exact expiring.takesTurn now rfl
  | closing => exact acts.leaves now rfl rfl
  | dead =>
    exact .intro acts rfl nofun (fun _ same => by rw [← Option.some.inj same, now]; rfl)
      (fun leaving => by simp [now, Phase.fate] at leaving) (fun _ => ⟨rfl, rfl, rfl⟩) (Or.inl rfl)

end Parley.Dispatcher
