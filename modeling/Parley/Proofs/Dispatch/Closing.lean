import Mathlib.Data.List.Pairwise
import Parley.Proofs.Dispatch.Accounts

/-!
The time between a call of `stop` and its end. A worker that has not begun is stopped for good. One that
has been handed a job does not hear that it is to stop: it runs that job, and goes on until it finds
nothing to do. All others cancel what they have.
-/

namespace Parley.Dispatcher

/-- Somebody calls `stop`: the script if it waits for nothing, which then waits until all workers are gone,
and somebody else if it waits. -/
def State.stopNow (state : State) : State :=
  if state.blocked = .nothing then State.runActions [.stop] state else state.stopAll

/-- A worker that is about to take a job, or has just taken one, does not hear that it is to stop. -/
def Worker.isDeaf (patience : Patience) (worker : Worker) : Bool :=
  match worker.phase with
  | .looking | .took _ | .ready _ => true
  | .handed => patience ≠ .endless
  | _ => false

namespace State

/-- A job is in the hands of a worker that does not hear that it is to stop, or waits for room there. -/
def Overlooks (called : State) (job : Nat) : Prop :=
  ∃ worker ∈ called.workers, worker.isDeaf called.limits.patience ∧
    (job ∈ worker.custody ∨ ∃ woken, called.blocked = .room worker.id job woken)

end State

variable {called state after : State} {lost : List Nat} {worker : Worker} {awake : List Token}

theorem Worker.told_fate (patience : Patience) (calm : worker.phase.fate.next = .alive) :
    (worker.phase = .created ∧ (worker.told patience).phase.fate = .lifeless) ∨
      worker.phase ≠ .created ∧ (worker.isDeaf patience ∧ (worker.told patience).phase.fate = .alive ∨
        ¬worker.isDeaf patience ∧ (worker.told patience).phase.fate = .leaving) := by
  cases phase : worker.phase with
  | handed => by_cases endless : patience = .endless <;>
      simp [Worker.told, Worker.isDeaf, phase, endless, Phase.fate]
  | stillborn | aborting | closing | dead =>
    rw [phase] at calm
    cases calm
  | _ => simp [Worker.told, Worker.isDeaf, phase, Phase.fate]

/-- The workers are told to stop, and nothing else happens. -/
structure Stopped (called state : State) : Prop where
  workers : state.workers = called.workers.map (Worker.told called.limits.patience)
  assignments : state.assignments = called.assignments
  begun : state.begun = called.begun
  rest : state.rest = []
  blocked : state.blocked = called.blocked ∨ called.blocked = .nothing ∧ state.blocked = .workers
  cued : Cued state

theorem Cued.stopNow (cued : Cued called) (ids : (called.workers.map (·.id)).Nodup)
    (finished : called.rest = []) (waits : called.blocked ≠ .workers) : Stopped called called.stopNow := by
  obtain ⟨workers, woken, stopped, silent, told⟩ := called.stopAll_eq
  have told := told ids
  unfold State.stopNow
  split
  · rename_i blocked
    have alarm : called.alarm = none := Option.not_isSome_iff_eq_none.mp fun set => by
      rcases cued.alarm set with same | same <;> rw [blocked] at same <;> cases same
    have cues := cued.cues
    rw [State.cues, blocked] at cues
    by_cases empty : called.workers.isEmpty
    · have done : State.runActions [.stop] called = { called.record with rest := [] } := by
        simp [State.runActions, State.begin, empty]
      rw [done]
      have none := List.isEmpty_iff.mp empty
      exact ⟨by simp [State.record, none], rfl, rfl, rfl, Or.inl rfl, cued.cues, cued.alarm⟩
    · have asleep : called.tokens.count .script = 0 := by
        simpa [empty] using cues
      have cued := Poised.runs ⟨asleep, blocked, alarm⟩ [.stop]
      have done : State.runActions [.stop] called =
          { called.stopAll with blocked := .workers, rest := [] } := by
        simp [State.runActions, State.begin, empty, State.stopAll]
      rw [done, stopped] at cued ⊢
      exact ⟨told, rfl, rfl, rfl, Or.inr ⟨blocked, rfl⟩, cued⟩
  · rename_i blocked
    rw [stopped]
    refine ⟨told, rfl, rfl, finished, Or.inl rfl, ?_, cued.alarm⟩
    have cues := cued.cues
    unfold State.cues at cues ⊢
    dsimp only
    -- whoever waits neither for nothing nor for the workers does not look at them
    cases now : called.blocked with
    | nothing => exact absurd now blocked
    | workers => exact absurd now waits
    | _ =>
      rw [now] at cues
      simpa [State.tokens, silent] using cues

/-! ### Nothing is added to what was there at the call -/

namespace State

/-- A job that stays behind: its worker has not begun, or it waits for room. -/
def Leaves (called : State) (job : Nat) : Prop :=
  (∃ worker ∈ called.workers, worker.phase = .created ∧ job ∈ worker.custody) ∨
    job ∈ called.blocked.waiting

/-- A job that may end: its worker has begun, or it waits for room. -/
def Reaches (called : State) (job : Nat) : Prop :=
  (∃ worker ∈ called.workers, worker.phase ≠ .created ∧ job ∈ worker.custody) ∨
    job ∈ called.blocked.waiting

end State

/-- A worker after the call has jobs that it had before. -/
structure Worker.Heard (called : State) (worker : Worker) : Prop where
  begun : worker.phase.fate ≠ .unborn
  lifeless : worker.phase.fate = .lifeless → ∀ job ∈ worker.custody, called.Leaves job
  reached : worker.phase.fate ≠ .lifeless → ∀ job ∈ worker.custody, called.Reaches job
  overlooked : worker.phase.fate = .alive → ∀ job ∈ worker.custody, called.Overlooks job

/-- The time between a call of `stop` and its end. -/
structure Closing (called : State) (lost : List Nat) (state : State) : Prop where
  ids : (state.workers.map (·.id)).Nodup
  rest : state.rest = []
  begun : ∃ late, state.begun = called.begun ++ late ∧ ∀ job ∈ late, called.Overlooks job
  opened : ∀ job, state.isOpen job → called.isOpen job
  still : ∀ job, called.isOpen job → ¬called.Reaches job → state.isOpen job
  found : ∀ job, state.isOpen job → job ∈ state.held ∨ job ∈ lost ∨ called.Leaves job
  heard : ∀ worker ∈ state.workers, worker.Heard called
  room : ∀ id job woken, state.blocked = .room id job woken →
    (∃ before, called.blocked = .room id job before) ∧
      ∀ worker ∈ state.workers, worker.id = id → worker.phase.fate = .alive → called.Overlooks job

theorem Stopped.heard (stopped : Stopped called state) (accounted : Accounted lost called)
    (waits : called.blocked ≠ .workers) : ∀ worker ∈ state.workers, worker.Heard called := by
  intro other inside
  rw [stopped.workers] at inside
  obtain ⟨worker, member, rfl⟩ := List.mem_map.mp inside
  obtain ⟨-, custody⟩ := worker.told_keeps called.limits.patience
  have not {fate other : Fate} (now : (worker.told called.limits.patience).phase.fate = fate)
      (differs : fate ≠ other) : (worker.told called.limits.patience).phase.fate ≠ other := now ▸ differs
  rcases worker.told_fate called.limits.patience (accounted.calm waits worker member) with
    ⟨unborn, fate⟩ | ⟨born, ⟨deaf, fate⟩ | ⟨-, fate⟩⟩
  · exact
      { begun := not fate nofun
        lifeless := fun _ job inside => Or.inl ⟨worker, member, unborn, custody ▸ inside⟩
        reached := fun alive => absurd fate alive
        overlooked := fun alive => absurd alive (not fate nofun) }
  · exact
      { begun := not fate nofun
        lifeless := fun lifeless => absurd lifeless (not fate nofun)
        reached := fun _ job inside => Or.inl ⟨worker, member, born, custody ▸ inside⟩
        overlooked := fun _ job inside => ⟨worker, member, deaf, Or.inl (custody ▸ inside)⟩ }
  · exact
      { begun := not fate nofun
        lifeless := fun lifeless => absurd lifeless (not fate nofun)
        reached := fun _ job inside => Or.inl ⟨worker, member, born, custody ▸ inside⟩
        overlooked := fun alive => absurd alive (not fate nofun) }

theorem Stopped.held (stopped : Stopped called state) : state.held = called.held := by
  have custody : state.workers.flatMap Worker.custody = called.workers.flatMap Worker.custody := by
    rw [stopped.workers, List.flatMap_map]
    exact List.flatMap_congr fun worker _ => (worker.told_keeps _).2
  have waiting : state.blocked.waiting = called.blocked.waiting := by
    rcases stopped.blocked with same | ⟨before, now⟩
    · rw [same]
    · rw [before, now]
      rfl
  rw [State.held, State.held, custody, waiting]

theorem Stopped.closing (stopped : Stopped called state) (accounted : Accounted lost called)
    (waits : called.blocked ≠ .workers) : Closing called lost state := by
  have unended (job : Nat) : state.isOpen job = called.isOpen job := by
    rw [State.isOpen, State.isOpen, stopped.assignments]
  constructor
  case ids =>
    rw [stopped.workers, List.map_map, List.map_congr_left fun worker _ => (worker.told_keeps _).1]
    exact accounted.ids
  case rest => exact stopped.rest
  case begun => exact ⟨[], stopped.begun.trans (List.append_nil _).symm,
    fun _ inside => (List.not_mem_nil inside).elim⟩
  case opened => exact fun job now => unended job ▸ now
  case still => exact fun job before _ => (unended job).symm ▸ before
  case found =>
    intro job now
    rw [unended] at now
    exact (List.mem_append.mp (accounted.found job now)).imp (stopped.held ▸ ·) Or.inl
  case heard => exact stopped.heard accounted waits
  case room =>
    intro id job woken blocked
    rcases stopped.blocked with same | ⟨-, now⟩
    · rw [same] at blocked
      refine ⟨⟨woken, blocked⟩, fun other inside id alive => ?_⟩
      rw [stopped.workers] at inside
      obtain ⟨worker, member, rfl⟩ := List.mem_map.mp inside
      rw [(worker.told_keeps _).1] at id
      rcases worker.told_fate called.limits.patience (accounted.calm waits worker member) with
        ⟨-, fate⟩ | ⟨-, ⟨deaf, -⟩ | ⟨-, fate⟩⟩
      · rw [fate] at alive
        cases alive
      · exact ⟨worker, member, deaf, Or.inr ⟨woken, id ▸ blocked⟩⟩
      · rw [fate] at alive
        cases alive
    · rw [now] at blocked
      cases blocked

/-! ### Turns after the call -/

theorem State.goOn_over (finished : state.rest = []) : ∃ trace, state.goOn =
    { state with blocked := .nothing, alarm := none, trace } :=
  ⟨state.record.trace, by simp [State.goOn, State.runActions, State.record, State.now, finished]⟩

namespace Closing

theorem waits (closing : Closing called lost state) {job : Nat}
    (waiting : job ∈ state.blocked.waiting) : job ∈ called.blocked.waiting := by
  unfold Blocked.waiting at waiting
  split at waiting
  · rename_i id other woken blocked
    rw [List.mem_singleton.mp waiting]
    obtain ⟨⟨before, same⟩, -⟩ := closing.room id other woken blocked
    rw [same]
    exact List.mem_singleton_self _
  · cases waiting

theorem congr (closing : Closing called lost state) (workers : after.workers = state.workers)
    (assignments : after.assignments = state.assignments) (begun : after.begun = state.begun)
    (rest : after.rest = []) (room : ∀ id job woken, after.blocked = .room id job woken →
      ∃ before, state.blocked = .room id job before) : Closing called lost after := by
  have unended (job : Nat) : after.isOpen job = state.isOpen job := by
    rw [State.isOpen, State.isOpen, assignments]
  constructor
  case ids => exact workers ▸ closing.ids
  case rest => exact rest
  case begun => exact begun ▸ closing.begun
  case opened => exact fun job now => closing.opened job (unended job ▸ now)
  case still => exact fun job before away => (unended job).symm ▸ closing.still job before away
  case found =>
    intro job now
    rw [unended] at now
    rcases closing.found job now with held | other
    · rw [State.held, workers]
      rcases List.mem_append.mp held with custody | waiting
      · exact Or.inl (List.mem_append_left _ custody)
      · exact Or.inr (Or.inr (Or.inr (closing.waits waiting)))
    · exact Or.inr other
  case heard => exact workers ▸ closing.heard
  case room =>
    intro id job woken blocked
    obtain ⟨before, same⟩ := room id job woken blocked
    exact workers ▸ closing.room id job before same

theorem acts (closing : Closing called lost state) (member : worker ∈ state.workers)
    {kept : Option Worker} {ended began : List Nat}
    (acts : Acts worker.id kept ended began state after)
    (found : ∀ job ∈ worker.custody, job ∈ ended ∨ ∃ other ∈ kept, job ∈ other.custody)
    (heard : ∀ other ∈ kept, other.Heard called)
    (alive : ∀ other ∈ kept, other.phase.fate = .alive → worker.phase.fate = .alive)
    (ended_reached : ∀ job ∈ ended, called.Reaches job)
    (overlooked : ∀ job ∈ began, called.Overlooks job) : Closing called lost after := by
  constructor
  case ids => exact acts.ids closing.ids member
  case rest => exact acts.rest.trans closing.rest
  case begun =>
    obtain ⟨late, begun, others⟩ := closing.begun
    refine ⟨late ++ began, by rw [acts.begun, begun, List.append_assoc], fun job inside => ?_⟩
    exact (List.mem_append.mp inside).elim (others job) (overlooked job)
  case opened => exact fun job now => closing.opened job ((acts.isOpen job).mp now).1
  case still =>
    exact fun job before away => (acts.isOpen job).mpr
      ⟨closing.still job before away, fun inside => away (ended_reached job inside)⟩
  case found =>
    intro job now
    obtain ⟨before, unended⟩ := (acts.isOpen job).mp now
    refine (closing.found job before).imp_left fun held => ?_
    rw [State.held, acts.waiting]
    refine (List.mem_append.mp held).elim (fun custody => List.mem_append_left _ ?_)
      (List.mem_append_right _)
    obtain ⟨other, inside, has⟩ := List.mem_flatMap.mp custody
    refine List.mem_flatMap.mpr ?_
    rw [acts.workers]
    by_cases same : other.id = worker.id
    · obtain rfl := List.inj_on_of_nodup_map closing.ids inside member same
      obtain ⟨now, same, has⟩ := (found job has).resolve_left unended
      refine ⟨now, List.mem_flatMap.mpr ⟨other, inside, ?_⟩, has⟩
      rw [if_pos rfl]
      exact Option.mem_toList.mpr same
    · refine ⟨other, List.mem_flatMap.mpr ⟨other, inside, ?_⟩, has⟩
      rw [if_neg same]
      exact List.mem_singleton_self _
  case heard =>
    intro other inside
    exact (acts.mem inside).elim (heard other) fun old => closing.heard other old.1
  case room =>
    intro id job woken blocked
    obtain ⟨before, same⟩ : ∃ before, state.blocked = .room id job before := by
      rcases acts.blocked with same | ⟨other, before, now⟩
      · exact ⟨woken, same ▸ blocked⟩
      · rw [now] at blocked
        cases blocked
        exact ⟨false, before⟩
    obtain ⟨room, others⟩ := closing.room id job before same
    refine ⟨room, fun other inside own lives => ?_⟩
    rcases acts.mem inside with now | ⟨old, -⟩
    · exact others worker member ((acts.id other now).symm.trans own) (alive other now lives)
    · exact others other old own lives

theorem takesTurn (closing : Closing called lost state) (member : worker ∈ state.workers)
    (takes : TakesTurn worker state after) : Closing called lost after := by
  obtain ⟨acts, custody, own, fate, leaving, lifeless, gone⟩ := takes
  rename_i kept ended began middle
  have before := closing.heard worker member
  have keeps (other : Worker) (now : other ∈ kept) : ended ++ other.custody = worker.custody := by
    rw [custody, Option.mem_def.mp now]
    rfl
  have alive (other : Worker) (now : other ∈ kept) (lives : other.phase.fate = .alive) :
      worker.phase.fate = .alive := by
    have same := (fate other now).symm.trans lives
    cases fates : worker.phase.fate with
    | unborn => exact absurd fates before.begun
    | alive => rfl
    | leaving => rw [fates] at same; cases same
    | lifeless => rw [fates] at same; cases same
  have next : Closing called lost middle := by
    refine closing.acts member acts (fun job has => ?_) (fun other now => ?_) alive (fun job has => ?_)
      fun job has => ?_
    · rw [custody] at has
      refine (List.mem_append.mp has).imp_right fun inside => ?_
      cases kept with
      | none => cases inside
      | some other => exact ⟨other, rfl, inside⟩
    · have inside (job : Nat) (has : job ∈ other.custody) : job ∈ worker.custody :=
        keeps other now ▸ List.mem_append_right _ has
      have same := fate other now
      refine ⟨?_, fun dead job has => ?_, fun moves job has => ?_, fun lives job has => ?_⟩
      · rw [same]
        cases worker.phase.fate <;> nofun
      · refine before.lifeless ?_ job (inside job has)
        rw [same] at dead
        cases fates : worker.phase.fate <;> rw [fates] at dead <;> first | rfl | cases dead
      · refine before.reached (fun dead => moves ?_) job (inside job has)
        rw [same, dead]
        rfl
      · exact before.overlooked (alive other now lives) job (inside job has)
    · refine before.reached (fun dead => ?_) job (custody ▸ List.mem_append_left _ has)
      rw [(lifeless dead).1] at has
      cases has
    · refine before.overlooked ?_ job (own job has)
      cases fates : worker.phase.fate with
      | unborn => exact absurd fates before.begun
      | alive => rfl
      | leaving =>
        rw [(leaving fates).2] at has
        cases has
      | lifeless =>
        rw [(lifeless fates).2.1] at has
        cases has
  rcases gone with rfl | rfl
  · exact next
  · obtain ⟨woken, noted, -⟩ := middle.noteGone_eq
    rw [noted]
    exact next.congr rfl rfl rfl next.rest fun _ _ woken same => ⟨woken, same⟩

theorem idles (closing : Closing called lost state) (cued : Cued state) (idles : Idles state after) :
    Closing called lost after := by
  have unended (job : Nat) : after.isOpen job = state.isOpen job := by
    rw [State.isOpen, State.isOpen, idles.assignments]
  have held := idles.held cued
  have blocked := idles.blocked cued
  constructor
  case ids => exact idles.ids ▸ closing.ids
  case rest => exact idles.rest.trans closing.rest
  case begun => exact idles.begun ▸ closing.begun
  case opened => exact fun job now => closing.opened job (unended job ▸ now)
  case still => exact fun job before away => (unended job).symm ▸ closing.still job before away
  case found => exact fun job now => held ▸ closing.found job (unended job ▸ now)
  case heard =>
    intro other inside
    obtain ⟨worker, member, -, custody, fate⟩ := idles.mem inside
    have before := closing.heard worker member
    exact ⟨fate ▸ before.begun, fate ▸ custody ▸ before.lifeless, fate ▸ custody ▸ before.reached,
      fate ▸ custody ▸ before.overlooked⟩
  case room =>
    intro id job woken waits
    have same : after.blocked = state.blocked := by
      refine blocked.resolve_right fun rings => ?_
      rw [rings.2] at waits
      cases waits
    obtain ⟨room, others⟩ := closing.room id job woken (same ▸ waits)
    refine ⟨room, fun other inside own lives => ?_⟩
    obtain ⟨worker, member, id, -, fate⟩ := idles.mem inside
    exact others worker member (id ▸ own) (fate ▸ lives)

theorem delivers (closing : Closing called lost state) {job : Nat} {woken : Bool}
    (blocked : state.blocked = .room worker.id job woken) (member : worker ∈ state.workers) :
    Closing called lost (state.deliver worker job) := by
  obtain ⟨kept, acts, custody, fate⟩ := State.deliver_acts closing.ids member job
  obtain ⟨⟨before, room⟩, others⟩ := closing.room _ _ _ blocked
  have waits : job ∈ called.blocked.waiting := by
    rw [room]
    exact List.mem_singleton_self _
  have heard := closing.heard worker member
  have inside {other : Nat} (has : other ∈ kept.custody) : other ∈ worker.custody ∨ other = job := by
    rw [custody] at has
    exact (List.mem_append.mp has).imp_right List.mem_singleton.mp
  refine closing.acts member acts (fun other has => Or.inr ⟨kept, rfl, ?_⟩) (fun other now => ?_) ?_
    nofun nofun
  · rw [custody]
    exact List.mem_append_left _ has
  · obtain rfl := Option.some.inj now
    refine ⟨fate ▸ heard.begun, fun dead other has => ?_, fun moves other has => ?_,
      fun lives other has => ?_⟩
    · rcases inside has with old | rfl
      · exact heard.lifeless (fate ▸ dead) other old
      · exact Or.inr waits
    · rcases inside has with old | rfl
      · exact heard.reached (fate ▸ moves) other old
      · exact Or.inr waits
    · rcases inside has with old | rfl
      · exact heard.overlooked (fate ▸ lives) other old
      · exact others worker member rfl (fate ▸ lives)
  · intro other now lives
    rw [← Option.some.inj now, fate] at lives
    exact lives

theorem goesOn (closing : Closing called lost state) : Closing called lost state.goOn := by
  obtain ⟨trace, same⟩ := State.goOn_over closing.rest
  rw [same]
  exact closing.congr rfl rfl rfl closing.rest nofun

theorem forgets (closing : Closing called lost state) (gone : state.allGone) :
    Closing called lost { state with workers := [] } := by
  refine ⟨List.nodup_nil, closing.rest, closing.begun, closing.opened, closing.still,
    fun job now => ?_, nofun, fun id job woken blocked => ?_⟩
  · rcases closing.found job now with held | other
    · right
      rcases List.mem_append.mp held with custody | waiting
      · obtain ⟨worker, member, has⟩ := List.mem_flatMap.mp custody
        have dead : worker.phase = .dead := of_decide_eq_true (List.all_eq_true.mp gone worker member)
        exact Or.inr ((closing.heard worker member).lifeless (by rw [dead]; rfl) job has)
      · exact Or.inr (Or.inr (closing.waits waiting))
    · exact Or.inr other
  · exact ⟨(closing.room id job woken blocked).1, nofun⟩

theorem resumes (closing : Closing called lost state) (cued : Cued state)
    (first : state.awake = .script :: awake) (resumes : Resumes state { state with awake } after) :
    Closing called lost after := by
  have popped : Closing called lost { state with awake } :=
    closing.congr rfl rfl rfl closing.rest fun _ _ woken same => ⟨woken, same⟩
  cases resumes with
  | begins blocked =>
    rw [show ({ state with awake } : State).rest = [] from closing.rest]
    exact popped.congr rfl rfl rfl rfl fun _ _ woken same => ⟨woken, same⟩
  | goesOn blocked => exact popped.goesOn
  | forgets blocked =>
    have gone : state.allGone := by
      have cues := cued.cues
      rw [State.cues, blocked, State.tokens_eq first] at cues
      by_contra busy
      simp [busy] at cues
    exact (popped.forgets gone).goesOn
  | misses blocked gone => exact popped.goesOn
  | @delivers worker job woken blocked member room =>
    have delivered := popped.delivers blocked member
    refine Closing.goesOn (?_ : Closing called lost _)
    exact delivered.congr rfl rfl rfl delivered.rest fun _ _ _ same => by cases same
  | @waits worker job woken blocked member full =>
    refine popped.congr rfl rfl rfl closing.rest fun _ _ _ same => ?_
    cases same
    exact ⟨woken, blocked⟩

theorem turn (closing : Closing called lost state) (cued : Cued state) :
    Closing called lost state.turn := by
  cases State.happens closing.ids with
  | worker member _ takes => exact closing.takesTurn member takes
  | idle idles => exact closing.idles cued idles
  | script first resumes => exact closing.resumes cued first resumes

end Closing

/-! ### Once `stop` has returned -/

/-- Nobody has a job that somebody else has, or that was lost. -/
theorem Accounted.owner (accounted : Accounted lost state) {job : Nat} (member : worker ∈ state.workers)
    (has : job ∈ worker.custody) : job ∉ lost ∧
      ∀ other ∈ state.workers, job ∈ other.custody → other = worker := by
  obtain ⟨held, -, apart⟩ := List.nodup_append.mp accounted.once
  refine ⟨fun gone => apart job ?_ job gone rfl, fun other inside also => ?_⟩
  · exact List.mem_append_left _ (List.mem_flatMap.mpr ⟨worker, member, has⟩)
  · obtain ⟨-, disjoint⟩ := List.nodup_flatMap.mp (List.nodup_append.mp held).1
    by_contra differs
    have : Std.Symm (Function.onFun List.Disjoint Worker.custody) :=
      ⟨fun _ _ disjoint => List.disjoint_symm disjoint⟩
    exact disjoint.forall inside member differs also has

theorem Closing.left (closing : Closing called lost state) (accounted : Accounted lost called)
    (gone : state.allGone) (blocked : state.blocked = .nothing) {job : Nat}
    (placed : job ∉ called.blocked.waiting) : state.isOpen job ↔ called.isOpen job ∧
      ∀ worker ∈ called.workers, job ∈ worker.custody → worker.phase = .created := by
  refine ⟨fun now => ⟨closing.opened job now, fun worker member has => ?_⟩, fun ⟨before, unborn⟩ => ?_⟩
  · have leaves (stays : called.Leaves job) : worker.phase = .created := by
      obtain ⟨other, inside, unborn, also⟩ := stays.resolve_right placed
      exact (accounted.owner member has).2 other inside also ▸ unborn
    rcases closing.found job now with held | lost | stays
    · rcases List.mem_append.mp held with custody | waiting
      · obtain ⟨other, inside, also⟩ := List.mem_flatMap.mp custody
        have dead : other.phase = .dead := of_decide_eq_true (List.all_eq_true.mp gone other inside)
        exact leaves ((closing.heard other inside).lifeless (by rw [dead]; rfl) job also)
      · rw [blocked] at waiting
        cases waiting
    · exact absurd lost (accounted.owner member has).1
    · exact leaves stays
  · refine closing.still job before fun reaches => ?_
    obtain ⟨worker, member, born, has⟩ := reaches.resolve_right placed
    exact born (unborn worker member has)

theorem Closing.iterate (closing : Closing called lost state) (cued : Cued state) (turns : Nat) :
    Closing called lost (State.turn^[turns] state) ∧ Cued (State.turn^[turns] state) := by
  induction turns with
  | zero => exact ⟨closing, cued⟩
  | succ turns ih =>
    rw [Function.iterate_succ_apply']
    exact ⟨ih.1.turn ih.2, ih.2.turn ih.1.ids⟩

end Parley.Dispatcher
