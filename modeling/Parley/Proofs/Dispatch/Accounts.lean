import Mathlib.Data.List.Nodup
import Mathlib.Data.List.Perm.Basic
import Parley.Proofs.Dispatch.Cues

/-!
Every job that has not ended is in the hands of one worker, waits for room there, or was lost when its
worker was given up. This holds of all scripts, also of those that stop workers.
-/

namespace Parley.Dispatcher

def Blocked.waiting : Blocked → List Nat
  | .room _ job _ => [job]
  | _ => []

/-- The jobs in the hands of workers, and the one that waits for room. -/
def State.held (state : State) : List Nat :=
  state.workers.flatMap Worker.custody ++ state.blocked.waiting

/-- Nobody has the lost ones, and each of the others is in one place. -/
structure Accounted (lost : List Nat) (state : State) : Prop where
  ids : (state.workers.map (·.id)).Nodup
  old : ∀ worker ∈ state.workers, worker.id < state.serial
  /-- Workers that were stopped are there only while the script waits for them. -/
  calm : state.blocked ≠ .workers → ∀ worker ∈ state.workers, worker.phase.fate.next = .alive
  once : (state.held ++ lost).Nodup
  known : ∀ job ∈ state.held ++ lost, job < state.assignments.length
  found : ∀ job, state.isOpen job → job ∈ state.held ++ lost

variable {lost more : List Nat} {state after : State} {worker : Worker} {awake : List Token}

theorem Accounted.initial (limits : Limits) (clock : Clock) (rest : List Action) :
    Accounted [] { limits, clock, rest } where
  ids := List.nodup_nil
  old := nofun
  calm := nofun
  once := List.nodup_nil
  known := nofun
  found job unended := by simp [State.isOpen] at unended

/-! ### Others' turns -/

theorem replaced_split {workers : List Worker} (ids : (workers.map (·.id)).Nodup)
    (member : worker ∈ workers) : ∃ before later, workers = before ++ worker :: later ∧
      ∀ kept : List Worker, (workers.flatMap fun other =>
        if other.id = worker.id then kept else [other]) = before ++ kept ++ later := by
  obtain ⟨before, later, rfl⟩ := List.append_of_mem member
  refine ⟨before, later, rfl, fun kept => ?_⟩
  rw [List.map_append, List.map_cons] at ids
  obtain ⟨-, ids, apart⟩ := List.nodup_append.mp ids
  have still (others : List Worker) (differ : ∀ other ∈ others, other.id ≠ worker.id) :
      (others.flatMap fun other => if other.id = worker.id then kept else [other]) = others := by
    rw [List.flatMap_congr fun other inside => if_neg (differ other inside), List.flatMap_singleton']
  rw [List.flatMap_append, List.flatMap_cons, if_pos rfl, still before, still later]
  · simp
  · exact fun other inside same => (List.nodup_cons.mp ids).1 (same ▸ List.mem_map_of_mem inside)
  · exact fun other inside => apart _ (List.mem_map_of_mem inside) _ List.mem_cons_self

theorem Acts.mem {own : Nat} {kept : Option Worker} {ended began : List Nat} {other : Worker}
    (acts : Acts own kept ended began state after) (member : other ∈ after.workers) :
    other ∈ kept ∨ other ∈ state.workers ∧ other.id ≠ own := by
  rw [acts.workers] at member
  obtain ⟨before, inside, member⟩ := List.mem_flatMap.mp member
  split at member
  · exact Or.inl (Option.mem_toList.mp member)
  · rw [List.mem_singleton.mp member]
    exact Or.inr ⟨inside, ‹_›⟩

theorem Acts.waiting {own : Nat} {kept : Option Worker} {ended began : List Nat}
    (acts : Acts own kept ended began state after) : after.blocked.waiting = state.blocked.waiting := by
  rcases acts.blocked with same | ⟨job, before, now⟩
  · rw [same]
  · rw [before, now]
    rfl

theorem Acts.held {kept : Option Worker} {ended began : List Nat}
    (acts : Acts worker.id kept ended began state after) (ids : (state.workers.map (·.id)).Nodup)
    (member : worker ∈ state.workers)
    (custody : worker.custody ++ more = ended ++ kept.elim [] Worker.custody) :
    (state.held ++ (more ++ lost)).Perm (ended ++ (after.held ++ lost)) := by
  obtain ⟨before, later, workers, replaced⟩ := replaced_split ids member
  have now := acts.workers.trans (replaced kept.toList)
  have keeps : kept.toList.flatMap Worker.custody = kept.elim [] Worker.custody := by
    cases kept <;> simp
  refine List.perm_iff_count.mpr fun job => ?_
  have count := congrArg (List.count job) custody
  rw [State.held, State.held, acts.waiting, workers, now]
  simp only [List.flatMap_append, List.flatMap_cons, List.count_append, keeps] at count ⊢
  omega

theorem Acts.ids {kept : Option Worker} {ended began : List Nat}
    (acts : Acts worker.id kept ended began state after) (ids : (state.workers.map (·.id)).Nodup)
    (member : worker ∈ state.workers) : (after.workers.map (·.id)).Nodup := by
  obtain ⟨before, later, workers, replaced⟩ := replaced_split ids member
  rw [acts.workers.trans (replaced kept.toList)]
  rw [workers] at ids
  cases kept with
  | none => exact ids.sublist (List.Sublist.map _ (by simp))
  | some other =>
    have id := acts.id other rfl
    simpa [id] using ids

theorem Accounted.acts {kept : Option Worker} {ended began : List Nat}
    (accounted : Accounted (more ++ lost) state) (member : worker ∈ state.workers)
    (acts : Acts worker.id kept ended began state after)
    (custody : worker.custody ++ more = ended ++ kept.elim [] Worker.custody)
    (fate : ∀ other ∈ kept, other.phase.fate.next = worker.phase.fate.next) :
    Accounted lost after := by
  have perm : (state.held ++ (more ++ lost)).Perm (ended ++ (after.held ++ lost)) :=
    acts.held accounted.ids member custody
  constructor
  case ids => exact acts.ids accounted.ids member
  case old =>
    intro other inside
    refine Nat.lt_of_lt_of_le ?_ acts.serial
    rcases acts.mem inside with now | ⟨old, -⟩
    · rw [acts.id other now]
      exact accounted.old worker member
    · exact accounted.old other old
  case calm =>
    intro calm other inside
    have before : state.blocked ≠ .workers := by
      rcases acts.blocked with same | ⟨job, same, -⟩
      · exact same ▸ calm
      · rw [same]
        nofun
    rcases acts.mem inside with now | ⟨old, -⟩
    · exact (fate other now).trans (accounted.calm before worker member)
    · exact accounted.calm before other old
  case once => exact (List.nodup_append.mp (perm.nodup_iff.mp accounted.once)).2.1
  case known =>
    intro job inside
    rw [acts.length]
    exact accounted.known job (perm.mem_iff.mpr (List.mem_append_right _ inside))
  case found =>
    intro job unended
    obtain ⟨before, open_still⟩ := (acts.isOpen job).mp unended
    exact (List.mem_append.mp (perm.mem_iff.mp (accounted.found job before))).resolve_left open_still

theorem Fate.next_next (fate : Fate) : fate.next.next = fate.next := by cases fate <;> rfl

theorem Accounted.takesTurn (accounted : Accounted lost state) (member : worker ∈ state.workers)
    (takes : TakesTurn worker state after) : Accounted lost after := by
  obtain ⟨acts, custody, -, fate, -, -, gone⟩ := takes
  rename_i kept ended began middle
  have kept : Accounted lost middle := by
    refine Accounted.acts (show Accounted ([] ++ lost) state from accounted) member acts ?_ ?_
    · rw [List.append_nil]
      exact custody
    · intro other same
      rw [fate other same, Fate.next_next]
  rcases gone with rfl | rfl
  · exact kept
  · obtain ⟨woken, noted, -⟩ := middle.noteGone_eq
    rw [noted]
    exact ⟨kept.ids, kept.old, kept.calm, kept.once, kept.known, kept.found⟩

theorem Idles.blocked (idles : Idles state after) (cued : Cued state) :
    after.blocked = state.blocked ∨
      (state.blocked = .time ∨ state.blocked = .jobs) ∧ after.blocked = .time := by
  cases idles.rouses with
  | workers blocked => exact Or.inl blocked
  | script waits blocked => exact Or.inr ⟨waits.elim cued.alarm Or.inr, blocked⟩

theorem Idles.held (idles : Idles state after) (cued : Cued state) : after.held = state.held := by
  obtain ⟨change, workers, kept⟩ := idles.workers
  have custody : after.workers.flatMap Worker.custody = state.workers.flatMap Worker.custody := by
    rw [workers, List.flatMap_map]
    exact List.flatMap_congr fun worker member => (kept worker member).2.1
  have waiting : after.blocked.waiting = state.blocked.waiting := by
    rcases idles.blocked cued with same | ⟨time | jobs, now⟩
    · rw [same]
    · rw [time, now]
    · rw [jobs, now]
      rfl
  rw [State.held, State.held, custody, waiting]

theorem Idles.ids (idles : Idles state after) :
    after.workers.map (·.id) = state.workers.map (·.id) := by
  obtain ⟨change, workers, kept⟩ := idles.workers
  rw [workers, List.map_map]
  exact List.map_congr_left fun worker member => (kept worker member).1

theorem Accounted.idles (accounted : Accounted lost state) (cued : Cued state)
    (idles : Idles state after) : Accounted lost after := by
  have held := idles.held cued
  constructor
  case ids => exact idles.ids ▸ accounted.ids
  case old =>
    intro other inside
    obtain ⟨worker, member, id, -⟩ := idles.mem inside
    rw [id, idles.serial]
    exact accounted.old worker member
  case calm =>
    intro calm other inside
    obtain ⟨worker, member, -, -, fate⟩ := idles.mem inside
    rw [fate]
    refine accounted.calm (fun stops => calm ?_) worker member
    rcases idles.blocked cued with same | ⟨time | jobs, -⟩
    · exact same.trans stops
    · rw [time] at stops
      cases stops
    · rw [jobs] at stops
      cases stops
  case once => exact held ▸ accounted.once
  case known => exact held ▸ idles.assignments ▸ accounted.known
  case found =>
    intro job unended
    rw [held]
    refine accounted.found job ?_
    rw [State.isOpen, idles.assignments] at unended
    exact unended

/-! ### The script's turns -/

theorem Accounted.congr (accounted : Accounted lost state) (workers : after.workers = state.workers)
    (assignments : after.assignments = state.assignments) (serial : state.serial ≤ after.serial)
    (waiting : after.blocked.waiting = state.blocked.waiting)
    (calm : after.blocked ≠ .workers → state.blocked ≠ .workers) : Accounted lost after := by
  have held : after.held = state.held := by rw [State.held, State.held, workers, waiting]
  constructor
  case ids => exact workers ▸ accounted.ids
  case old => exact fun other inside => (accounted.old other (workers ▸ inside)).trans_le serial
  case calm => exact fun away other inside => accounted.calm (calm away) other (workers ▸ inside)
  case once => exact held ▸ accounted.once
  case known => exact held ▸ assignments ▸ accounted.known
  case found =>
    intro job unended
    rw [State.isOpen, assignments] at unended
    exact held ▸ accounted.found job unended

theorem Accounted.frees (accounted : Accounted lost state)
    (gone : state.blocked = .workers → state.workers = []) :
    Accounted (state.blocked.waiting ++ lost) { state with blocked := .nothing } := by
  have held : ({ state with blocked := .nothing } : State).held ++ (state.blocked.waiting ++ lost) =
      state.held ++ lost := by simp [State.held, Blocked.waiting]
  refine ⟨accounted.ids, accounted.old, fun _ worker member => ?_, ?_, ?_, ?_⟩
  · by_cases stops : state.blocked = .workers
    · rw [show state.workers = [] from gone stops] at member
      cases member
    · exact accounted.calm stops worker member
  · exact held ▸ accounted.once
  · exact held ▸ accounted.known
  · exact held ▸ accounted.found

theorem Accounted.forgets (accounted : Accounted lost state) (stops : state.blocked = .workers) :
    Accounted (state.held ++ lost) { state with workers := [] } := by
  have held : ({ state with workers := [] } : State).held = [] := by
    simp [State.held, stops, Blocked.waiting]
  refine ⟨List.nodup_nil, nofun, fun _ => nofun, ?_, ?_, ?_⟩
  · rw [held]
    exact accounted.once
  · rw [held]
    exact accounted.known
  · rw [held]
    exact accounted.found

theorem State.deliver_acts (ids : (state.workers.map (·.id)).Nodup) (member : worker ∈ state.workers)
    (job : Nat) : ∃ kept : Worker, Acts worker.id (some kept) [] [] state (state.deliver worker job) ∧
      kept.custody = worker.custody ++ [job] ∧ kept.phase.fate = worker.phase.fate := by
  have acts := Acts.refl ids member
  have custody (phase : Phase) (inHand : phase.inHand = worker.phase.inHand) :
      ({ worker with mailbox := worker.mailbox.push job, phase } : Worker).custody =
        worker.custody ++ [job] := by
    simp [Worker.custody, Mailbox.push, inHand]
  unfold State.deliver
  dsimp only
  split
  · rename_i waits
    exact ⟨_, (acts.change (fun other => { other with
      mailbox := worker.mailbox.push job, phase := .handed, alarm := none }) rfl).wake worker.id,
      custody .handed (by rw [waits]; rfl), by rw [waits]; rfl⟩
  · exact ⟨_, acts.change (fun other => { other with mailbox := worker.mailbox.push job }) rfl,
      custody worker.phase rfl, rfl⟩

theorem Accounted.delivers {job : Nat} (accounted : Accounted (job :: lost) state)
    (blocked : state.blocked = .nothing) (member : worker ∈ state.workers) :
    Accounted lost (state.tryDeliver worker job).2 := by
  unfold State.tryDeliver
  split
  · have held : ({ state with blocked := .room worker.id job false } : State).held ++ lost =
        state.held ++ job :: lost := by
      simp [State.held, Blocked.waiting, blocked]
    refine ⟨accounted.ids, accounted.old, fun _ => accounted.calm (by simp [blocked]), ?_, ?_, ?_⟩
    · exact held ▸ accounted.once
    · exact held ▸ accounted.known
    · exact held ▸ accounted.found
  · obtain ⟨kept, acts, custody, fate⟩ := State.deliver_acts accounted.ids member job
    have delivered : Accounted lost (state.deliver worker job) := by
      refine Accounted.acts (show Accounted ([job] ++ lost) state from accounted) member acts ?_ ?_
      · exact custody.symm
      · intro other same
        rw [← Option.some.inj same, fate]
    have still : (state.deliver worker job).blocked = .nothing := by
      rcases acts.blocked with same | ⟨other, same, -⟩
      · exact same.trans blocked
      · rw [blocked] at same
        cases same
    exact delivered.congr rfl rfl (Nat.le_refl _) (by rw [still]) (by simp [still])

theorem Accounted.hires (accounted : Accounted lost state) (key : SessionKey) :
    Accounted lost (state.workerFor key).2 ∧
      (state.workerFor key).1 ∈ (state.workerFor key).2.workers ∧
      (state.workerFor key).2.blocked = state.blocked := by
  unfold State.workerFor
  split
  · exact ⟨accounted, List.mem_of_find?_eq_some ‹_›, rfl⟩
  · refine ⟨?_, List.mem_append_right _ (List.mem_singleton_self _), rfl⟩
    change Accounted lost (state.hired key)
    have held : (state.hired key).held = state.held := by
      simp [State.held, State.hired, State.newWorker, Worker.custody, Phase.inHand]
    have mem {other : Worker} (inside : other ∈ (state.hired key).workers) :
        other ∈ state.workers ∨ other = state.newWorker key := State.mem_hired inside
    constructor
    case ids =>
      refine (List.map_append ..).symm ▸ List.nodup_append.mpr
        ⟨accounted.ids, List.nodup_singleton _, fun id old other new same => ?_⟩
      obtain ⟨worker, member, rfl⟩ := List.mem_map.mp old
      have := accounted.old worker member
      rw [same, List.mem_singleton.mp new] at this
      exact Nat.lt_irrefl _ this
    case old =>
      intro other inside
      rcases mem inside with old | rfl
      · exact Nat.lt_succ_of_lt (accounted.old other old)
      · exact Nat.lt_succ_self _
    case calm =>
      intro calm other inside
      rcases mem inside with old | rfl
      · exact accounted.calm calm other old
      · rfl
    case once => exact held ▸ accounted.once
    case known => exact held ▸ accounted.known
    case found => exact held ▸ accounted.found

theorem Accounted.submits (accounted : Accounted lost state) (assignment : Assignment) :
    Accounted (state.assignments.length :: lost)
      { state with assignments := state.assignments ++ [assignment] } := by
  refine ⟨accounted.ids, accounted.old, accounted.calm, ?_, ?_, ?_⟩
  · refine List.nodup_middle.mpr (List.nodup_cons.mpr ⟨fun inside => ?_, accounted.once⟩)
    exact Nat.lt_irrefl _ (accounted.known _ inside)
  · intro job inside
    rw [List.length_append, List.length_singleton]
    rcases List.mem_cons.mp (List.perm_middle.mem_iff.mp inside) with rfl | old
    · exact Nat.lt_succ_self _
    · exact Nat.lt_succ_of_lt (accounted.known job old)
  · intro job unended
    refine List.perm_middle.mem_iff.mpr (List.mem_cons.mpr (or_iff_not_imp_left.mpr fun other => ?_))
    refine accounted.found job ?_
    unfold State.isOpen at unended ⊢
    dsimp only at unended
    rcases Nat.lt_or_ge job state.assignments.length with inside | outside
    · rwa [List.getElem?_append_left inside] at unended
    · rw [List.getElem?_eq_none (by simp; omega)] at unended
      cases unended

theorem Accounted.stops (accounted : Accounted lost state) (blocked : state.blocked = .nothing) :
    Accounted lost { state.stopAll with blocked := .workers } := by
  obtain ⟨workers, woken, stopped, -, told⟩ := state.stopAll_eq
  rw [stopped, told accounted.ids]
  generalize after_eq : ({ state with
    workers := state.workers.map (Worker.told state.limits.patience)
    upcoming := state.upcoming ++ woken
    blocked := .workers } : State) = after
  have now : after.workers = state.workers.map (Worker.told state.limits.patience) := after_eq ▸ rfl
  have held : after.held = state.held := by
    rw [State.held, State.held, now, List.flatMap_map, blocked,
      show after.blocked = .workers from after_eq ▸ rfl]
    exact congrArg (· ++ []) (List.flatMap_congr fun worker _ => (worker.told_keeps _).2)
  constructor
  case ids =>
    rw [now, List.map_map, List.map_congr_left fun worker _ => (worker.told_keeps _).1]
    exact accounted.ids
  case old =>
    intro other inside
    rw [now] at inside
    obtain ⟨worker, member, rfl⟩ := List.mem_map.mp inside
    rw [(worker.told_keeps _).1, show after.serial = state.serial from after_eq ▸ rfl]
    exact accounted.old worker member
  case calm => exact fun away => absurd (after_eq ▸ rfl) away
  case once => exact held ▸ accounted.once
  case known =>
    rw [held, show after.assignments = state.assignments from after_eq ▸ rfl]
    exact accounted.known
  case found =>
    rw [held, ← after_eq]
    exact accounted.found

theorem Accounted.begins (accounted : Accounted lost state) (blocked : state.blocked = .nothing)
    (action : Action) : Accounted lost (state.begin action).2 := by
  have waits (after : State) (waiting : after.blocked.waiting = []) :
      after.blocked.waiting = state.blocked.waiting := by
    rw [waiting, blocked]
    rfl
  have calm : state.blocked ≠ .workers := by simp [blocked]
  cases action with
  | submit assignment =>
    obtain ⟨hired, member, same⟩ := (accounted.submits assignment).hires assignment.key
    exact hired.delivers (same.trans blocked) member
  | sleep seconds =>
    unfold State.begin
    dsimp only
    split
    · exact accounted.congr rfl rfl (Nat.le_refl _) (waits _ rfl) fun _ => calm
    · exact accounted.congr rfl rfl (Nat.le_succ _) (waits _ rfl) fun _ => calm
  | stop =>
    unfold State.begin
    dsimp only
    split
    · exact accounted
    · exact accounted.stops blocked
  | join =>
    unfold State.begin
    dsimp only
    split
    · exact accounted
    · split
      · exact accounted.congr rfl rfl (Nat.le_refl _) (waits _ rfl) fun _ => calm
      · exact accounted.congr rfl rfl (Nat.le_succ _) (waits _ rfl) fun _ => calm

theorem Accounted.runs (accounted : Accounted lost state) (poised : Poised state)
    (actions : List Action) : Accounted lost (State.runActions actions state) := by
  induction actions generalizing state with
  | nil => exact accounted.congr rfl rfl (Nat.le_refl _) rfl id
  | cons action rest ih =>
    have begins := poised.begins action
    have next := accounted.begins poised.blocked action
    unfold State.runActions
    cases result : state.begin action with
    | mk finished after =>
      rw [result] at begins next
      cases finished with
      | true =>
        exact ih (next.congr rfl rfl (Nat.le_refl _) rfl id)
          ⟨begins.asleep, begins.blocked, begins.alarm⟩
      | false => exact next.congr rfl rfl (Nat.le_refl _) rfl id

theorem Accounted.goesOn (accounted : Accounted lost state)
    (asleep : state.tokens.count .script = 0) (gone : state.blocked = .workers → state.workers = []) :
    Accounted (state.blocked.waiting ++ lost) state.goOn := by
  unfold State.goOn
  refine Accounted.runs ?_ ?_ _
  · exact (accounted.frees gone).congr rfl rfl (Nat.le_refl _) rfl id
  · exact ⟨asleep, rfl, rfl⟩

theorem State.tryDeliver_blocked (worker : Worker) (job : Nat) (state : State) (blocked : Blocked) :
    ({ state with blocked } : State).tryDeliver worker job = state.tryDeliver worker job := by
  unfold State.tryDeliver State.deliver
  split
  · rfl
  · dsimp only
    split <;> rfl

theorem Accounted.resumes (accounted : Accounted lost state) (cued : Cued state)
    (first : state.awake = .script :: awake) (resumes : Resumes state { state with awake } after) :
    ∃ more, Accounted more after := by
  have asleep := cued.popped first
  have popped : Accounted lost { state with awake } :=
    accounted.congr rfl rfl (Nat.le_refl _) rfl id
  have delivered {worker : Worker} {job : Nat} {woken : Bool} (member : worker ∈ state.workers)
      (blocked : state.blocked = .room worker.id job woken) :
      Accounted lost (State.tryDeliver worker job { state with awake }).2 := by
    have freed : Accounted (job :: lost) { state with awake, blocked := .nothing } := by
      have freed := popped.frees (by simp [blocked])
      dsimp only at freed
      rwa [blocked] at freed
    rw [← State.tryDeliver_blocked worker job { state with awake } .nothing]
    exact freed.delivers rfl member
  cases resumes with
  | begins blocked =>
    have silent := cued.silent (by simp [blocked]) (by simp [blocked])
    exact ⟨lost, popped.runs ⟨asleep, blocked, silent⟩ _⟩
  | goesOn blocked =>
    exact ⟨_, popped.goesOn asleep (by rcases blocked with same | same <;> simp [same])⟩
  | forgets blocked => exact ⟨_, (popped.forgets blocked).goesOn asleep fun _ => rfl⟩
  | misses blocked gone => exact ⟨_, popped.goesOn asleep (by simp [blocked])⟩
  | @delivers worker job woken blocked member room =>
    have silent := cued.silent (by simp [blocked]) (by simp [blocked])
    have poised := Poised.delivers asleep silent worker job
    have delivered := delivered member blocked
    rw [State.tryDeliver, if_neg room] at poised delivered
    exact ⟨_, delivered.goesOn poised.asleep (by simp)⟩
  | @waits worker job woken blocked member full =>
    have delivered := delivered member blocked
    rw [State.tryDeliver, if_pos full] at delivered
    exact ⟨lost, delivered⟩

/-- Whatever happens, every job that has not ended is accounted for. -/
theorem Accounted.turn (accounted : Accounted lost state) (cued : Cued state) :
    ∃ more, Accounted more state.turn := by
  cases State.happens accounted.ids with
  | worker member _ takes => exact ⟨lost, accounted.takesTurn member takes⟩
  | idle idles => exact ⟨lost, accounted.idles cued idles⟩
  | script first resumes => exact accounted.resumes cued first resumes

theorem accounted_iterate (limits : Limits) (clock : Clock) (script : List Action) (turns : Nat) :
    Cued (State.turn^[turns] { limits, clock, rest := script }) ∧
      ∃ lost, Accounted lost (State.turn^[turns] { limits, clock, rest := script }) := by
  induction turns with
  | zero => exact ⟨.initial limits clock script, [], .initial limits clock script⟩
  | succ turns ih =>
    obtain ⟨cued, lost, accounted⟩ := ih
    rw [Function.iterate_succ_apply']
    exact ⟨cued.turn accounted.ids, accounted.turn cued⟩

end Parley.Dispatcher
