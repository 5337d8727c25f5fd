import Parley.Proofs.Dispatch.Jobs

/-!
Turns that no worker takes: those of bells, of word that all jobs have ended, and what the script does
without a worker.
-/

namespace Parley.Dispatcher

variable {calls : List Rat} {state after : State} {gone woken : List Token}

/-- The workers are left alone: neither their tokens nor their bells go, and nothing happens to their
jobs. -/
structure Spares (gone woken : List Token) (state after : State) : Prop where
  workers : after.workers = state.workers
  limits : after.limits = state.limits
  clock : after.clock = state.clock
  assignments : after.assignments = state.assignments
  begun : after.begun = state.begun
  serial : state.serial ≤ after.serial
  tokens : ∃ rest, state.tokens = gone ++ rest ∧ after.tokens = rest ++ woken
  strangers : ∀ worker ∈ state.workers, .worker worker.id ∉ gone
  bells : ∀ worker ∈ state.workers, ∀ alarm ∈ worker.alarm, .bell alarm.serial ∉ gone
  wakes : ∀ token ∈ woken, token = .script ∨ token = .report
  jobs : ∀ id, after.blocked.jobFor id = state.blocked.jobFor id
  rooms : ∀ id job awake, after.blocked = .room id job awake →
    state.blocked = .room id job awake ∧ (awake = true → .script ∉ gone)
  alarms : ∀ alarm ∈ after.alarm, alarm.Kept after.clock ∧
    (alarm.IsNew state after ∨ alarm ∈ state.alarm ∧ .bell alarm.serial ∉ gone)
  waits : after.alarm.isSome → after.blocked = .time ∨ after.blocked = .jobs
  driven : after.blocked ≠ .workers

theorem Spares.unmoved (spares : Spares gone woken state after) {token : Token}
    (old : token ∉ gone) (new : token ≠ .script ∧ token ≠ .report) :
    Unmoved token state.tokens after.tokens := by
  obtain ⟨rest, before, now⟩ := spares.tokens
  refine ⟨gone, rest, woken, before, now, old, fun member => ?_⟩
  rcases spares.wakes token member with same | same
  · exact new.1 same
  · exact new.2 same

theorem Spares.moves (spares : Spares gone woken state after) : Moves none gone woken state after where
  tokens := spares.tokens
  silent serial member := by rcases spares.wakes _ member with same | same <;> cases same
  called id member := by rcases spares.wakes _ member with same | same <;> cases same
  serial := spares.serial
  ids := spares.workers ▸ List.Sublist.refl _
  others worker member _ := by
    rw [spares.workers] at member
    refine ⟨member, spares.strangers worker member, fun woken => ?_, spares.bells worker member⟩
    rcases spares.wakes _ woken with same | same <;> cases same
  own worker _ same := nomatch same
  script alarm set := (spares.alarms alarm set).2.imp_left fun new => ⟨rfl, new⟩

theorem Sound.spare (sound : Sound calls state) (spares : Spares gone woken state after) :
    Sound calls after := by
  have bell (worker : Worker) (member : worker ∈ state.workers) (alarm : Alarm)
      (set : alarm ∈ worker.alarm) : Unmoved (.bell alarm.serial) state.tokens after.tokens :=
    spares.unmoved (spares.bells worker member alarm set) ⟨nofun, nofun⟩
  have ticket (worker : Worker) (member : worker ∈ state.workers) :
      Unmoved (.worker worker.id) state.tokens after.tokens :=
    spares.unmoved (spares.strangers worker member) ⟨nofun, nofun⟩
  constructor
  case toNumbered => exact sound.toNumbered.moves spares.moves
  case patience => exact spares.limits ▸ sound.patience
  case exact => exact spares.clock ▸ sound.exact
  case resolution => exact spares.clock ▸ sound.resolution
  case called =>
    rw [State.now, spares.clock, spares.assignments]
    exact sound.called
  case durations => exact spares.assignments ▸ sound.durations
  case begun =>
    rw [spares.begun, spares.assignments]
    exact sound.begun
  case keys => exact spares.workers ▸ sound.keys
  case kept =>
    intro alarm member
    rcases State.mem_allAlarms.mp member with own | ⟨worker, inside, set⟩
    · exact (spares.alarms alarm own).1
    · rw [spares.workers] at inside
      exact spares.clock ▸ sound.kept alarm (State.mem_allAlarms_of_worker inside set)
  case unstopped => exact spares.workers ▸ sound.unstopped
  case sizes => exact spares.workers ▸ sound.sizes
  case posted =>
    rw [spares.workers, spares.clock, spares.assignments]
    exact fun worker member => (sound.posted worker member).unmoved (ticket worker member)
      (bell worker member) fun _ _ => rfl
  case lanes =>
    rw [State.now, spares.workers, spares.clock, spares.assignments]
    intro worker member
    rw [State.pending, spares.jobs]
    exact sound.lanes worker member
  case empty =>
    rw [State.now, spares.workers, spares.clock, spares.assignments]
    exact sound.empty
  case room =>
    intro id job awake blocked
    obtain ⟨before, silent⟩ := spares.rooms id job awake blocked
    obtain ⟨worker, member, same, kept⟩ := sound.room id job awake before
    obtain ⟨rest, first, now⟩ := spares.tokens
    refine ⟨worker, spares.workers ▸ member, same, kept.full, fun woken' => ?_⟩
    obtain ⟨free, took, order⟩ := kept.free woken'
    refine ⟨free, took, ?_⟩
    rw [now]
    exact sublist_of_gone (first ▸ order) (silent woken') woken
  case waits => exact spares.waits
  case driven => exact spares.driven

theorem Spares.load (spares : Spares gone woken state after) :
    after.load + (gone.length + state.alarm.elim 0 Alarm.weight + state.blocked.weight) =
      state.load + (woken.length + after.alarm.elim 0 Alarm.weight + after.blocked.weight) := by
  obtain ⟨rest, before, now⟩ := spares.tokens
  rw [State.load, State.load, before, now, spares.workers, spares.assignments, List.length_append,
    List.length_append]
  omega

theorem Sound.drops (sound : Sound calls state) {token : Token} {awake : List Token}
    (first : state.awake = token :: awake)
    (stranger : ∀ worker ∈ state.workers, token ≠ .worker worker.id)
    (bell : ∀ worker ∈ state.workers, ∀ alarm ∈ worker.alarm, token ≠ .bell alarm.serial)
    (own : ∀ alarm ∈ state.alarm, token ≠ .bell alarm.serial) (script : token ≠ .script)
    (report : token = .report → state.blocked ≠ .jobs) :
    Advances calls state { state with awake } := by
  have tokens := State.tokens_eq first
  have still {other : Token} (differs : token ≠ other) (member : other ∈ state.tokens) :
      other ∈ awake ++ state.upcoming := by
    rw [tokens, List.singleton_append] at member
    exact (List.mem_cons.mp member).resolve_left differs.symm
  have spares : Spares [token] [] state { state with awake } :=
    { workers := rfl, limits := rfl, clock := rfl, assignments := rfl, begun := rfl
      serial := Nat.le_refl _
      tokens := ⟨_, tokens, (List.append_nil _).symm⟩
      strangers := fun worker member same =>
        stranger worker member (List.mem_singleton.mp same).symm
      bells := fun worker member alarm set same =>
        bell worker member alarm set (List.mem_singleton.mp same).symm
      wakes := nofun
      jobs := fun _ => rfl
      rooms := fun _ _ _ blocked =>
        ⟨blocked, fun _ same => script (List.mem_singleton.mp same).symm⟩
      alarms := fun alarm set => ⟨sound.kept alarm (State.mem_allAlarms.mpr (Or.inl set)),
        Or.inr ⟨set, by simpa using (own alarm set).symm⟩⟩
      waits := sound.waits
      driven := sound.driven }
  exact
    { sound := sound.spare spares
      rest := rfl, trace := rfl, clock := rfl, alarm := rfl, asked := rfl, blocked := Or.inl rfl
      scripts := by
        rw [tokens, List.singleton_append, List.count_cons_of_ne script]
        rfl
      report := fun waits => still fun same => report same waits
      load := by
        have load := spares.load
        rw [List.length_singleton, List.length_nil] at load
        dsimp only at load
        omega }

/-! ### Bells -/

theorem Sound.rouses (sound : Sound calls state) {awake : List Token} {worker : Worker}
    (member : worker ∈ state.workers) {alarm : Alarm} (set : worker.alarm = some alarm)
    (first : state.awake = .bell alarm.serial :: awake) {phase : Phase}
    (running : phase.isRunning = worker.phase.isRunning) (jobs : phase.job? = worker.phase.job?)
    (lighter : phase.weight worker.mailbox.queue.isEmpty ≤
      worker.phase.weight worker.mailbox.queue.isEmpty)
    (posted : ∀ tokens : List Token,
      tokens.count (.worker worker.id) = state.tokens.count (.worker worker.id) + 1 →
        ({ worker with phase, alarm := none } : Worker).Posted tokens state.clock
          state.assignments) :
    Advances calls state
      ((({ state with awake } : State).setPhase worker.id phase).wake (.worker worker.id)) := by
  have tokens := State.tokens_eq first
  have ringing : alarm.ringing = true := by
    refine (sound.mem_bell (State.mem_allAlarms_of_worker member set)).mp ?_
    rw [tokens]
    exact List.mem_cons_self
  generalize after_eq : State.wake (.worker worker.id) _ = after
  have now : after.tokens = awake ++ state.upcoming ++ [.worker worker.id] := by
    rw [← after_eq]
    simp [State.tokens, State.wake, State.setPhase, State.changeWorker]
  have assignments : after.assignments = state.assignments := after_eq ▸ rfl
  have clock : after.clock = state.clock := after_eq ▸ rfl
  have blocked : after.blocked = state.blocked := after_eq ▸ rfl
  have replaces : Replaces calls calls worker { worker with phase, alarm := none }
      [.bell alarm.serial] [.worker worker.id] state after :=
    { member, clock, id := rfl, key := rfl, limits := after_eq ▸ rfl, alarm := after_eq ▸ rfl
      serial := after_eq ▸ Nat.le_refl _
      edits := assignments ▸ .none
      workers := after_eq ▸ workers_changeWorker sound.ids member _
      tokens := ⟨_, tokens, now⟩
      goes := fun token inside =>
        Or.inr (Or.inr (Or.inr ⟨alarm, set, List.mem_singleton.mp inside⟩))
      wakes := fun token inside => Or.inr (Or.inr (List.mem_singleton.mp inside))
      jobs := fun _ _ => by rw [blocked]
      rooms := fun _ _ _ _ waits => ⟨blocked ▸ waits, by simp⟩
      waits := fun _ => blocked
      driven := fun stops => blocked ▸ stops }
  have still {token : Token} (differs : token ≠ .bell alarm.serial) (member : token ∈ state.tokens) :
      token ∈ after.tokens := by
    rw [tokens, List.singleton_append] at member
    rw [now]
    exact List.mem_append_left _ ((List.mem_cons.mp member).resolve_left differs)
  have room : ∀ job awake', after.blocked = .room worker.id job awake' →
      RoomKept after.tokens { worker with phase, alarm := none } awake' := by
    rw [blocked]
    intro job awake' waits
    obtain ⟨other, inside, same, kept⟩ := sound.room _ _ _ waits
    cases List.inj_on_of_nodup_map sound.ids inside member same
    refine ⟨kept.full, fun woken => ?_⟩
    -- a worker that has just taken a job has no alarm
    obtain ⟨-, ⟨taken, took⟩, -⟩ := kept.free woken
    have posted := sound.posted worker member
    rw [Worker.Posted, took] at posted
    rw [posted.2] at set
    cases set
  have load := replaces.load sound.ids
  have light : ({ worker with phase, alarm := none } : Worker).weight < worker.weight := by
    unfold Worker.weight
    rw [set, Option.elim_some, Alarm.weight, if_pos ringing, Option.elim_none]
    dsimp only
    omega
  rw [List.length_singleton, List.length_singleton, blocked, assignments] at load
  exact
    { sound := by
        refine sound.replace replaces ?_ (fun _ same => by cases same) (sound.unstopped worker member)
          (sound.sizes worker member) ?_ ?_ room
        · rw [assignments, show after.begun = state.begun from after_eq ▸ rfl]
          exact sound.begun
        · rw [clock, assignments]
          refine posted _ ?_
          rw [now, tokens]
          simp [Nat.add_assoc]
        · have lane := sound.lanes worker member
          rw [State.now, clock, assignments, State.pending, blocked, running, jobs]
          exact lane
      rest := after_eq ▸ rfl, trace := after_eq ▸ rfl, clock, alarm := after_eq ▸ rfl
      asked := by rw [assignments]
      load := by omega
      blocked := Or.inl blocked
      scripts := by
        rw [now, tokens, blocked]
        simp
      report := fun _ => still (fun same => by cases same) }

theorem Sound.answers (sound : Sound calls state) {awake : List Token} {worker : Worker}
    (member : worker ∈ state.workers) {alarm : Alarm} (set : worker.alarm = some alarm)
    (first : state.awake = .bell alarm.serial :: awake) :
    Advances calls state ((({ state with awake } : State).setPhase worker.id
      (if worker.phase = .waiting then .expiring 3 else worker.phase)).wake (.worker worker.id)) := by
  have tokens := State.tokens_eq first
  have belongs := State.mem_allAlarms_of_worker member set
  have kept := sound.kept alarm belongs
  have inside : .bell alarm.serial ∈ state.tokens := by
    rw [tokens]
    exact List.mem_cons_self
  have ringing := (sound.mem_bell belongs).mp inside
  have posted := sound.posted worker member
  unfold Worker.Posted at posted
  cases phase : worker.phase with
  | waiting =>
    rw [phase] at posted
    obtain ⟨none, -, empty⟩ := posted
    rw [if_pos rfl]
    refine sound.rouses member set first (by rw [phase]; rfl) (by rw [phase]; rfl) ?_ ?_
    · rw [phase, empty]
      exact Nat.le_refl 3
    · intro after once
      rw [none] at once
      exact ⟨once, rfl⟩
  | running job =>
    rw [phase] at posted
    rw [if_neg nofun]
    refine sound.rouses member set first (by rw [phase]) (by rw [phase]) (by rw [phase]) ?_
    obtain ⟨own, started, found, start, ⟨-, none, -⟩ | ⟨none, own_alarm, set', due⟩⟩ := posted
    · rw [none] at set
      cases set
    · rw [set] at set'
      cases set'
      intro after once
      rw [none] at once
      refine ⟨own, started, found, start, Or.inl ⟨once, rfl, ?_⟩⟩
      have ahead := kept.ahead
      have late := kept.due ringing
      rw [due] at ahead late
      exact ⟨by linarith, ahead⟩
  | looking =>
    rw [phase] at posted
    obtain ⟨-, own, set', order⟩ := posted
    rw [set] at set'
    cases set'
    have once : state.tokens.count (.bell alarm.serial) = 1 := by
      rw [sound.rings alarm belongs, ringing]
      rfl
    have order := order inside
    rw [tokens] at order once
    exact (not_first_of_sublist order nofun once).elim
  | handed =>
    rw [phase] at posted
    rw [posted.2.1] at set
    cases set
  | created | took | ready | expiring =>
    rw [phase] at posted
    rw [posted.2] at set
    cases set
  | stillborn | aborting | closing | dead =>
    rw [phase] at posted
    exact posted.elim

end Parley.Dispatcher
