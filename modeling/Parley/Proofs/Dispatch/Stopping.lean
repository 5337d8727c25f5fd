import Parley.Proofs.Dispatch.Closing

/-!
What `stop` leaves behind: the jobs of workers that had not begun, and a job that waits for room.
-/

namespace Parley.Dispatcher

structure Aftermath (called final : State) : Prop where
  /-- Only jobs that were overlooked begin after the call. -/
  begun : ∃ late, final.begun = called.begun ++ late ∧ ∀ job ∈ late, called.Overlooks job
  /-- When all workers are gone, just those jobs have not ended that nobody had, or that a worker had that
  had not begun. -/
  left : final.allGone → final.blocked = .nothing → ∀ job, job ∉ called.blocked.waiting →
    (final.isOpen job ↔ called.isOpen job ∧
      ∀ worker ∈ called.workers, job ∈ worker.custody → worker.phase = .created)
  /-- A job that waits for room never ends, unless its worker does not hear. -/
  stuck : ∀ id job, called.blocked = .room id job false →
    (∀ worker ∈ called.workers, worker.id = id → ¬worker.isDeaf called.limits.patience) →
    called.isOpen job → final.isOpen job

variable {called state after : State} {lost : List Nat} {worker : Worker} {awake : List Token}

/-! ### A submission that waits for room -/

/-- A job waits for room in the mailbox of a worker that makes none until it goes, or has gone. -/
structure Stuck (id job : Nat) (state : State) : Prop where
  unended : state.isOpen job
  nobody : ∀ worker ∈ state.workers, job ∉ worker.custody
  waits : (state.blocked = .room id job false ∧ ∀ worker ∈ state.workers, worker.id = id →
      worker.phase.fate = .leaving ∨ worker.phase.fate = .lifeless) ∨
    ∀ worker ∈ state.workers, worker.id ≠ id

namespace Stuck

variable {id job : Nat}

theorem congr (stuck : Stuck id job state) (workers : after.workers = state.workers)
    (assignments : after.assignments = state.assignments) (blocked : after.blocked = state.blocked) :
    Stuck id job after :=
  ⟨by rw [State.isOpen, assignments]; exact stuck.unended, workers ▸ stuck.nobody,
    workers ▸ blocked ▸ stuck.waits⟩

theorem takesTurn (stuck : Stuck id job state) (member : worker ∈ state.workers)
    (takes : TakesTurn worker state after) : Stuck id job after := by
  obtain ⟨acts, custody, -, fate, leaving, lifeless, gone⟩ := takes
  rename_i kept ended began middle
  have next : Stuck id job middle := by
    refine ⟨(acts.isOpen job).mpr ⟨stuck.unended, fun has => ?_⟩, fun other inside has => ?_, ?_⟩
    · exact stuck.nobody worker member (custody ▸ List.mem_append_left _ has)
    · rcases acts.mem inside with now | ⟨old, -⟩
      · refine stuck.nobody worker member (custody ▸ List.mem_append_right _ ?_)
        rw [Option.mem_def.mp now]
        exact has
      · exact stuck.nobody other old has
    · rcases stuck.waits with ⟨blocked, leaves⟩ | away
      · by_cases own : worker.id = id
        · rcases leaves worker member own with goes | dead
          · refine Or.inr fun other inside => ?_
            rw [(leaving goes).1] at acts
            exact own ▸ ((acts.mem inside).resolve_left nofun).2
          · refine Or.inl ⟨(lifeless dead).2.2.trans blocked, fun other inside same => ?_⟩
            rcases acts.mem inside with now | ⟨old, -⟩
            · exact Or.inr ((fate other now).trans (by rw [dead]; rfl))
            · exact leaves other old same
        · have same : middle.blocked = state.blocked := by
            refine acts.blocked.resolve_right fun ⟨other, room, _⟩ => own ?_
            rw [blocked] at room
            cases room
            rfl
          refine Or.inl ⟨same.trans blocked, fun other inside same => ?_⟩
          rcases acts.mem inside with now | ⟨old, -⟩
          · exact absurd ((acts.id other now).symm.trans same) own
          · exact leaves other old same
      · refine Or.inr fun other inside => ?_
        rcases acts.mem inside with now | ⟨old, -⟩
        · rw [acts.id other now]
          exact away worker member
        · exact away other old
  rcases gone with rfl | rfl
  · exact next
  · obtain ⟨woken, noted, -⟩ := middle.noteGone_eq
    rw [noted]
    exact next.congr rfl rfl rfl

theorem idles (stuck : Stuck id job state) (cued : Cued state) (idles : Idles state after) :
    Stuck id job after := by
  refine ⟨?_, fun other inside => ?_, ?_⟩
  · rw [State.isOpen, idles.assignments]
    exact stuck.unended
  · obtain ⟨worker, member, -, custody, -⟩ := idles.mem inside
    rw [custody]
    exact stuck.nobody worker member
  · rcases stuck.waits with ⟨blocked, leaves⟩ | away
    · refine Or.inl ⟨?_, fun other inside own => ?_⟩
      · rcases idles.blocked cued with same | ⟨time, -⟩
        · exact same.trans blocked
        · rw [blocked] at time
          rcases time with same | same <;> cases same
      · obtain ⟨worker, member, same, -, fate⟩ := idles.mem inside
        rw [fate]
        exact leaves worker member (same ▸ own)
    · refine Or.inr fun other inside => ?_
      obtain ⟨worker, member, same, -, -⟩ := idles.mem inside
      rw [same]
      exact away worker member

theorem resumes (stuck : Stuck id job state) (cued : Cued state) (closing : Closing called lost state)
    {before : Bool} (room : called.blocked = .room id job before)
    (first : state.awake = .script :: awake) (resumes : Resumes state { state with awake } after) :
    Stuck id job after := by
  have away : ∀ worker ∈ state.workers, worker.id ≠ id := by
    refine stuck.waits.resolve_left fun held => ?_
    obtain ⟨blocked, -⟩ := held
    -- the script sleeps until there is room
    have cues := cued.cues
    rw [State.cues, blocked, State.tokens_eq first] at cues
    simp at cues
  have goesOn (middle : State) (finished : middle.rest = []) (unended : middle.isOpen job)
      (workers : ∀ worker ∈ middle.workers, worker ∈ state.workers) : Stuck id job middle.goOn := by
    obtain ⟨trace, same⟩ := State.goOn_over finished
    rw [same]
    exact ⟨unended, fun worker member => stuck.nobody worker (workers worker member),
      Or.inr fun worker member => away worker (workers worker member)⟩
  -- nobody has room for the job that waits
  have missing {worker : Worker} {other : Nat} {woken : Bool} (member : worker ∈ state.workers)
      (blocked : state.blocked = .room worker.id other woken) : False := by
    obtain ⟨⟨_, same⟩, -⟩ := closing.room _ _ _ blocked
    rw [room] at same
    cases same
    exact away worker member rfl
  cases resumes with
  | begins blocked =>
    rw [show ({ state with awake } : State).rest = [] from closing.rest]
    exact stuck.congr rfl rfl rfl
  | goesOn blocked => exact goesOn _ closing.rest stuck.unended fun _ member => member
  | forgets blocked =>
    exact goesOn _ closing.rest stuck.unended fun _ inside => (List.not_mem_nil inside).elim
  | misses blocked gone => exact goesOn _ closing.rest stuck.unended fun _ member => member
  | delivers blocked member room => exact (missing member blocked).elim
  | waits blocked member full => exact (missing member blocked).elim

theorem turn (stuck : Stuck id job state) (cued : Cued state) (closing : Closing called lost state)
    {before : Bool} (room : called.blocked = .room id job before) : Stuck id job state.turn := by
  cases State.happens closing.ids with
  | worker member _ takes => exact stuck.takesTurn member takes
  | idle idles => exact stuck.idles cued idles
  | script first resumes => exact stuck.resumes cued closing room first resumes

end Stuck

theorem Stopped.stuck (stopped : Stopped called state) (accounted : Accounted lost called) {id job : Nat}
    (room : called.blocked = .room id job false)
    (hears : ∀ worker ∈ called.workers, worker.id = id → ¬worker.isDeaf called.limits.patience)
    (unended : called.isOpen job) : Stuck id job state := by
  have calm := accounted.calm (by simp [room])
  refine ⟨?_, fun other inside has => ?_, Or.inl ⟨?_, fun other inside own => ?_⟩⟩
  · rw [State.isOpen, stopped.assignments]
    exact unended
  · rw [stopped.workers] at inside
    obtain ⟨worker, member, rfl⟩ := List.mem_map.mp inside
    rw [(worker.told_keeps _).2] at has
    -- a job that waits for room is in nobody's hands
    obtain ⟨held, -, -⟩ := List.nodup_append.mp accounted.once
    refine (List.nodup_append.mp held).2.2 job ?_ job ?_ rfl
    · exact List.mem_flatMap.mpr ⟨worker, member, has⟩
    · rw [room]
      exact List.mem_singleton_self _
  · exact stopped.blocked.elim (·.trans room) fun now => by
      cases room.symm.trans now.1
  · rw [stopped.workers] at inside
    obtain ⟨worker, member, rfl⟩ := List.mem_map.mp inside
    rw [(worker.told_keeps _).1] at own
    rcases worker.told_fate called.limits.patience (calm worker member) with
      ⟨-, lifeless⟩ | ⟨-, ⟨deaf, -⟩ | ⟨-, leaving⟩⟩
    · exact Or.inr lifeless
    · exact absurd deaf (hears worker member own)
    · exact Or.inl leaving

theorem Stuck.iterate {id job : Nat} (stuck : Stuck id job state) (closing : Closing called lost state)
    (cued : Cued state) {before : Bool} (room : called.blocked = .room id job before) (turns : Nat) :
    Stuck id job (State.turn^[turns] state) := by
  induction turns with
  | zero => exact stuck
  | succ turns ih =>
    rw [Function.iterate_succ_apply']
    exact ih.turn (closing.iterate cued turns).2 (closing.iterate cued turns).1 room

/-- Whenever `stop` is called, no job begins but those of workers that do not hear of it, and when it has
returned just the jobs of workers that had not begun have not ended, apart from one that waits for room. -/
theorem stop_leaves_unbegun_workers (limits : Limits) (clock : Clock) (script : List Action)
    {turns : Nat} {called : State}
    (reached : called = State.turn^[turns] { limits, clock, rest := script })
    (finished : called.rest = []) (waits : called.blocked ≠ .workers) (later : Nat) :
    Aftermath called (State.turn^[later] called.stopNow) := by
  obtain ⟨cued, lost, accounted⟩ := reached ▸ accounted_iterate limits clock script turns
  have stopped := cued.stopNow accounted.ids finished waits
  have closing := stopped.closing accounted waits
  obtain ⟨final, -⟩ := closing.iterate stopped.cued later
  exact
    { begun := final.begun
      left := fun gone blocked job placed => final.left accounted gone blocked placed
      stuck := fun id job room hears unended =>
        ((stopped.stuck accounted room hears unended).iterate closing stopped.cued room later).unended }

/-- Of a worker in the middle of a job, with another one waiting, and one that has just been hired. -/
theorem rush_is_stopped :
    let script : List Action := [
      .submit { key := ⟨"bot", "ann"⟩, duration := some 1 },
      .submit { key := ⟨"bot", "ann"⟩ },
      .sleep (1 / 2),
      .submit { key := ⟨"bot", "ben"⟩, duration := some 1 }]
    let called := State.turn^[13] { limits := {}, rest := script }
    let final := State.turn^[16] called.stopNow
    (called.rest = [] ∧ called.blocked ≠ .workers) ∧ Aftermath called final ∧
      final.allGone ∧ final.blocked = .nothing ∧ (List.range 3).map final.isOpen = [false, false, true] := by
  intro script called final
  have finished : called.rest = [] := by decide +kernel
  have waits : called.blocked ≠ .workers := by decide +kernel
  refine ⟨⟨finished, waits⟩, ?_, by decide +kernel, by decide +kernel, by decide +kernel⟩
  exact stop_leaves_unbegun_workers {} {} script rfl finished waits 16

/-- The job of a new worker never ends, one that has just been given to an idle worker begins, and one
that waits for room in a full mailbox never ends. -/
theorem stop_fails_three_ways :
    let job : Action := .submit { key := ⟨"bot", "ann"⟩, duration := some 1 }
    let hired := runScript {} [job, .stop]
    let idle := runScript {} [job, .sleep 2, job]
    let full := State.turn^[13] { limits := { mailboxSize := 1 }, rest := [job, .sleep (1 / 2), job, job] }
    let returned := State.turn^[16] full.stopNow
    (hired.isOver ∧ hired.allGone ∧ hired.isOpen 0) ∧
      (idle.isOver ∧ idle.begun = [0] ∧ (runScript {} [job, .sleep 2, job, .stop]).begun = [0, 1]) ∧
      (full.blocked = .room 0 2 false ∧ returned.isOver ∧ returned.allGone ∧ returned.isOpen 2) := by
  decide +kernel

end Parley.Dispatcher
