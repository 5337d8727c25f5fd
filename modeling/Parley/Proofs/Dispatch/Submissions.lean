import Parley.Proofs.Dispatch.Waking

/-!
Jobs are submitted: a session that has no worker gets one, and the job goes into the mailbox of the
worker or waits for room there.
-/

namespace Parley.Dispatcher

variable {calls more : List Rat} {state : State} {worker : Worker}

theorem State.load_hired (key : SessionKey) (state : State) :
    (state.hired key).load = state.load + 7 := by
  have weight : (state.newWorker key).weight = 6 := rfl
  simp only [State.load, State.hired, State.tokens, List.length_append, List.length_singleton,
    List.map_append, List.map_singleton, List.sum_append, List.sum_singleton, weight]
  omega

theorem Sound.hires (sound : Sound calls state) {key : SessionKey}
    (none : ∀ worker ∈ state.workers, worker.key ≠ key) (blocked : state.blocked = .nothing) :
    Sound calls (state.hired key) := by
  have tokens := state.hired_tokens key
  have unmoved {token : Token} (differs : token ≠ .worker state.serial) :
      Unmoved token state.tokens (state.hired key).tokens :=
    ⟨[], _, _, rfl, tokens, List.not_mem_nil, by simpa using differs⟩
  have bell (serial : Nat) : Unmoved (.bell serial) state.tokens (state.hired key).tokens :=
    unmoved nofun
  constructor
  case toNumbered => exact sound.toNumbered.hires key
  case keys =>
    refine (List.map_append ..).symm ▸ List.nodup_append.mpr
      ⟨sound.keys, List.nodup_singleton _, fun own old other new same => ?_⟩
    obtain ⟨worker, member, rfl⟩ := List.mem_map.mp old
    exact none worker member (same.trans (List.mem_singleton.mp new))
  case kept =>
    intro alarm member
    rw [State.hired_allAlarms] at member
    exact sound.kept alarm member
  case unstopped =>
    intro worker member
    rcases State.mem_hired member with old | rfl
    · exact sound.unstopped worker old
    · rfl
  case sizes =>
    intro worker member
    rcases State.mem_hired member with old | rfl
    · exact sound.sizes worker old
    · exact fun bounded => Int.le_of_lt bounded
  case posted =>
    intro worker member
    rcases State.mem_hired member with old | rfl
    · have differs : Token.worker worker.id ≠ .worker state.serial := fun same =>
        Nat.lt_irrefl _ (Token.worker.inj same ▸ sound.old worker old)
      exact (sound.posted worker old).unmoved (unmoved differs) (fun _ _ => bell _) fun _ _ => rfl
    · refine ⟨?_, rfl⟩
      have fresh : Token.worker state.serial ∉ state.tokens := fun waits =>
        Nat.lt_irrefl _ (sound.tickets _ waits)
      change (state.hired key).tokens.count (.worker state.serial) = 1
      rw [tokens, List.count_append, List.count_eq_zero.mpr fresh, List.count_singleton_self]
  case lanes =>
    intro worker member
    rcases State.mem_hired member with old | rfl
    · exact sound.lanes worker old
    · obtain ⟨served, free, lane⟩ := sound.empty key none
      refine ⟨served, free, ?_⟩
      rw [State.pending, State.hired, blocked]
      exact lane
  case empty =>
    exact fun other strangers => sound.empty other fun worker member =>
      strangers worker (List.mem_append_left _ member)
  case room =>
    intro id job woken waits
    rw [State.hired, blocked] at waits
    cases waits
  all_goals first
    | exact sound.patience | exact sound.exact | exact sound.resolution | exact sound.called
    | exact sound.durations | exact sound.begun | exact sound.waits | exact sound.driven

inductive Receives (worker : Worker) (job : Nat) : Worker → List Token → Prop where
  | waiting (waits : worker.phase = .waiting) : Receives worker job
      { worker with mailbox := worker.mailbox.push job, phase := .handed, alarm := none }
      [.worker worker.id]
  | later (busy : worker.phase ≠ .waiting) : Receives worker job
      { worker with mailbox := worker.mailbox.push job } []

namespace Receives

variable {changed : Worker} {job : Nat} {woken : List Token}

theorem same (receives : Receives worker job changed woken) :
    changed.id = worker.id ∧ changed.key = worker.key ∧ changed.stopped = worker.stopped ∧
      changed.mailbox = worker.mailbox.push job := by
  cases receives <;> exact ⟨rfl, rfl, rfl, rfl⟩

theorem phase (receives : Receives worker job changed woken) :
    changed.phase.job? = worker.phase.job? ∧ changed.phase.isRunning = worker.phase.isRunning := by
  cases receives with
  | waiting waits =>
    rw [waits]
    exact ⟨rfl, rfl⟩
  | later => exact ⟨rfl, rfl⟩

theorem wakes (receives : Receives worker job changed woken) :
    ∀ token ∈ woken, token = .worker worker.id := by
  cases receives <;> simp

theorem alarm (receives : Receives worker job changed woken) :
    ∀ alarm ∈ changed.alarm, alarm ∈ worker.alarm := by
  cases receives with
  | waiting => nofun
  | later => exact fun _ set => set

theorem weight (receives : Receives worker job changed woken) :
    woken.length + changed.weight ≤ worker.weight + 13 := by
  have length : (worker.mailbox.push job).queue.length = worker.mailbox.queue.length + 1 :=
    List.length_append
  have nonempty : (worker.mailbox.push job).queue.isEmpty = false := by simp [Mailbox.push]
  cases receives with
  | waiting waits =>
    simp only [Worker.weight, waits, Phase.weight, length, List.length_singleton, Option.elim_none]
    omega
  | later busy =>
    have heavier : worker.phase.weight false ≤
        worker.phase.weight worker.mailbox.queue.isEmpty + 6 := by
      unfold Phase.weight
      split <;> (try split) <;> omega
    simp only [Worker.weight, length, nonempty, List.length_nil]
    omega

theorem posted (receives : Receives worker job changed woken) {before after : List Token}
    {clock : Clock} {assignments edited : List Assignment}
    (posted : worker.Posted before clock assignments)
    (unmoved : Unmoved (.worker worker.id) before after)
    (bells : ∀ alarm ∈ worker.alarm, Unmoved (.bell alarm.serial) before (after ++ woken))
    (same : ∀ job ∈ worker.phase.job?, edited[job]? = assignments[job]?) :
    changed.Posted (after ++ woken) clock edited := by
  cases receives with
  | waiting waits =>
    rw [Worker.Posted, waits] at posted
    refine ⟨?_, rfl, by simp [Mailbox.push]⟩
    rw [List.count_append, unmoved.count, posted.1, List.count_singleton_self]
  | later busy =>
    rw [List.append_nil] at bells ⊢
    have kept := posted.unmoved unmoved bells same
    unfold Worker.Posted at kept ⊢
    dsimp only
    split at kept
    case h_5 => exact ⟨kept.1, kept.2.1, by simp [Mailbox.push]⟩
    case h_7 waits => exact absurd waits busy
    all_goals exact kept

end Receives

theorem State.deliver_frame (worker : Worker) (job : Nat) (state : State) :
    (state.deliver worker job).clock = state.clock ∧
      (state.deliver worker job).trace = state.trace ∧
      (state.deliver worker job).assignments = state.assignments ∧
      (state.deliver worker job).rest = state.rest ∧
      (state.deliver worker job).alarm = state.alarm ∧
      (state.deliver worker job).tokens.count .script = state.tokens.count .script := by
  unfold State.deliver
  dsimp only
  split
  · refine ⟨rfl, rfl, rfl, rfl, rfl, ?_⟩
    simp [State.tokens, State.wake, State.changeWorker]
  · exact ⟨rfl, rfl, rfl, rfl, rfl, rfl⟩

theorem Sound.deliver_eq (sound : Sound calls state) (member : worker ∈ state.workers)
    (middle : State) (same : middle.workers = state.workers) (job : Nat) : ∃ changed woken,
    Receives worker job changed woken ∧ middle.deliver worker job = { middle with
      upcoming := middle.upcoming ++ woken
      workers := state.workers.map fun other =>
        if other.id = worker.id then changed else other } := by
  unfold State.deliver State.wake State.changeWorker
  rw [same]
  dsimp only
  by_cases waits : worker.phase = .waiting
  · refine ⟨_, _, .waiting waits, ?_⟩
    rw [if_pos waits, workers_changeWorker sound.ids member]
  · refine ⟨_, _, .later waits, ?_⟩
    rw [if_neg waits, workers_changeWorker sound.ids member, List.append_nil]

theorem Sound.delivers (sound : Sound calls state) (member : worker ∈ state.workers)
    {gone awake : List Token} {assignments : List Assignment} {job : Nat}
    (tokens : state.tokens = gone ++ (awake ++ state.upcoming))
    (script : ∀ token ∈ gone, token = .script)
    (jobs : ∀ id, id ≠ worker.id → state.blocked.jobFor id = [])
    (waits : state.blocked ≠ .time ∧ state.blocked ≠ .jobs)
    (free : worker.mailbox.isFull = false)
    (edits : Edits worker.key state.now state.assignments calls assignments more)
    (begun : ∀ job, startOf assignments job = startOf state.assignments job)
    (same : ∀ job ∈ worker.phase.job?, assignments[job]? = state.assignments[job]?)
    (lane : ∃ served free, Lane state.clock.resolution state.now assignments more worker.key
      worker.phase.isRunning (worker.phase.job?.toList ++ (worker.mailbox.queue ++ [job])) served
      free) {after : State}
    (after_eq : after = { State.deliver worker job { state with awake, assignments } with
      blocked := .nothing }) :
    Sound more after ∧
      after.load + (gone.length + state.blocked.weight + unsettled state.assignments) ≤
        state.load + (13 + unsettled assignments) := by
  obtain ⟨changed, woken, receives, delivered⟩ :=
    sound.deliver_eq member { state with awake, assignments } rfl job
  rw [delivered] at after_eq
  have workers : after.workers = state.workers.map fun other =>
      if other.id = worker.id then changed else other := after_eq ▸ rfl
  have clock : after.clock = state.clock := after_eq ▸ rfl
  have assignments_eq : after.assignments = assignments := after_eq ▸ rfl
  have blocked : after.blocked = .nothing := after_eq ▸ rfl
  have now : after.tokens = awake ++ state.upcoming ++ woken := by
    rw [after_eq]
    exact (List.append_assoc ..).symm
  have unmoved {token : Token} (differs : token ≠ .script) (woken' : List Token)
      (silent : token ∉ woken') :
      Unmoved token state.tokens (awake ++ state.upcoming ++ woken') :=
    ⟨gone, _, woken', tokens, rfl, fun inside => differs (script token inside), silent⟩
  have bells (alarm : Alarm) (_ : alarm ∈ worker.alarm) :
      Unmoved (.bell alarm.serial) state.tokens (awake ++ state.upcoming ++ woken) :=
    unmoved (show Token.bell alarm.serial ≠ .script from fun same => by cases same) woken
      fun inside => by cases receives.wakes _ inside
  have ticket : Unmoved (.worker worker.id) state.tokens (awake ++ state.upcoming) := by
    have silent := unmoved (show Token.worker worker.id ≠ .script from fun same => by cases same)
      [] List.not_mem_nil
    rwa [List.append_nil] at silent
  obtain ⟨id, key, stopped, mailbox⟩ := receives.same
  have replaces : Replaces calls more worker changed gone woken state after :=
    { member, id, key, workers, clock
      limits := after_eq ▸ rfl, alarm := after_eq ▸ rfl, serial := after_eq ▸ Nat.le_refl _
      edits := assignments_eq ▸ edits
      tokens := ⟨_, tokens, now⟩
      goes := fun token inside => Or.inl (script token inside)
      wakes := fun token inside => Or.inr (Or.inr (receives.wakes token inside))
      jobs := fun id differs => by
        rw [blocked, jobs id differs]
        rfl
      rooms := by
        rw [blocked]
        intro _ _ _ _ same
        cases same
      waits := fun before => (before.elim waits.1 waits.2).elim
      driven := by
        rw [blocked]
        intro same
        cases same }
  have size : 0 < changed.mailbox.capacity →
      changed.mailbox.queue.length ≤ changed.mailbox.capacity := by
    rw [mailbox]
    intro bounded
    unfold Mailbox.isFull at free
    rw [Bool.and_eq_false_iff, decide_eq_false_iff_not, decide_eq_false_iff_not] at free
    have := free.resolve_left (not_not.mpr bounded)
    change ((worker.mailbox.queue ++ [job]).length : Int) ≤ worker.mailbox.capacity
    rw [List.length_append, List.length_singleton]
    omega
  have load := replaces.load sound.ids
  have weight := receives.weight
  rw [blocked, assignments_eq, show Blocked.nothing.weight = 0 from rfl] at load
  refine ⟨?_, by omega⟩
  refine sound.replace replaces ?_ ?_ (stopped.trans (sound.unstopped worker member)) size ?_ ?_ ?_
  · rw [assignments_eq, show after.begun = state.begun from after_eq ▸ rfl]
    exact ⟨sound.begun.1, fun job => by rw [begun]; exact sound.begun.2 job⟩
  · intro alarm set
    have old := receives.alarm alarm set
    exact ⟨clock ▸ sound.kept alarm (State.mem_allAlarms_of_worker member old),
      Or.inr ⟨old, fun inside => by cases script _ inside⟩⟩
  · rw [now, clock, assignments_eq]
    exact receives.posted (sound.posted worker member) ticket bells same
  · have pending : after.pending changed =
        worker.phase.job?.toList ++ (worker.mailbox.queue ++ [job]) := by
      rw [State.pending, receives.phase.1, mailbox, blocked]
      exact List.append_nil _
    rw [State.now, clock, assignments_eq, pending, receives.phase.2]
    exact lane
  · rw [blocked]
    exact fun _ _ same => by cases same

theorem Sound.queues (sound : Sound calls state) (member : worker ∈ state.workers) {job : Nat}
    {assignments : List Assignment} (blocked : state.blocked = .nothing)
    (full : worker.mailbox.isFull)
    (edits : Edits worker.key state.now state.assignments calls assignments more)
    (begun : ∀ job, startOf assignments job = startOf state.assignments job)
    (same : ∀ job ∈ worker.phase.job?, assignments[job]? = state.assignments[job]?)
    (lane : ∃ served free, Lane state.clock.resolution state.now assignments more worker.key
      worker.phase.isRunning (worker.phase.job?.toList ++ (worker.mailbox.queue ++ [job])) served
      free) {after : State}
    (after_eq : after = { state with assignments, blocked := .room worker.id job false }) :
    Sound more after ∧
      after.load + unsettled state.assignments = state.load + (15 + unsettled assignments) := by
  have clock : after.clock = state.clock := after_eq ▸ rfl
  have assignments_eq : after.assignments = assignments := after_eq ▸ rfl
  have blocked_eq : after.blocked = .room worker.id job false := after_eq ▸ rfl
  have now : after.tokens = state.tokens := after_eq ▸ rfl
  have replaces : Replaces calls more worker worker [] [] state after :=
    { member, clock, id := rfl, key := rfl
      workers := after_eq ▸ (workers_unchanged sound.ids member).symm
      limits := after_eq ▸ rfl, alarm := after_eq ▸ rfl, serial := after_eq ▸ Nat.le_refl _
      edits := assignments_eq ▸ edits
      tokens := ⟨_, rfl, now.trans (List.append_nil _).symm⟩
      goes := (fun _ same => by cases same), wakes := (fun _ same => by cases same)
      jobs := fun id differs => by
        rw [blocked, blocked_eq]
        exact if_neg differs.symm
      rooms := by
        rw [blocked_eq]
        intro id job' woken differs waits
        cases waits
        exact absurd rfl differs
      waits := by
        rw [blocked]
        rintro (same | same) <;> cases same
      driven := by
        rw [blocked_eq]
        intro same
        cases same }
  have load := replaces.load sound.ids
  rw [blocked, blocked_eq, assignments_eq] at load
  refine ⟨?_, by simp [Blocked.weight] at load; omega⟩
  refine sound.replace replaces ?_ ?_ (sound.unstopped worker member) (sound.sizes worker member)
    ?_ ?_ ?_
  · rw [assignments_eq, show after.begun = state.begun from after_eq ▸ rfl]
    exact ⟨sound.begun.1, fun job => by rw [begun]; exact sound.begun.2 job⟩
  · exact fun alarm set => ⟨clock ▸ sound.kept alarm (State.mem_allAlarms_of_worker member set),
      Or.inr ⟨set, List.not_mem_nil⟩⟩
  · rw [now, clock, assignments_eq]
    exact (sound.posted worker member).unmoved
      ⟨[], _, [], rfl, (List.append_nil _).symm, List.not_mem_nil, List.not_mem_nil⟩
      (fun _ _ => ⟨[], _, [], rfl, (List.append_nil _).symm, List.not_mem_nil, List.not_mem_nil⟩) same
  · have pending : after.pending worker =
        worker.phase.job?.toList ++ (worker.mailbox.queue ++ [job]) := by
      rw [State.pending, blocked_eq, List.append_assoc]
      congr 2
      exact if_pos rfl
    rw [State.now, clock, assignments_eq, pending]
    exact lane
  · rw [blocked_eq]
    intro job' woken waits
    cases waits
    exact ⟨fun _ => full, (fun same => by cases same)⟩

theorem startOf_append (assignments : List Assignment) {own : Assignment}
    (unstarted : own.startedAt = none) (job : Nat) :
    startOf (assignments ++ [own]) job = startOf assignments job := by
  rw [startOf, startOf]
  rcases Nat.lt_trichotomy job assignments.length with inside | rfl | outside
  · rw [List.getElem?_append_left inside]
  · simp [unstarted]
  · rw [List.getElem?_eq_none (by simp; omega), List.getElem?_eq_none (by omega)]

structure Submits (calls : List Rat) (own : Assignment) (state : State) (result : Bool × State) :
    Prop where
  sound : Sound (calls ++ [state.now]) result.2
  delivered : result.1 = true → result.2.blocked = .nothing
  waits : result.1 = false → ∃ id job, result.2.blocked = .room id job false
  load : result.2.load ≤ state.load + 23
  clock : result.2.clock = state.clock
  trace : result.2.trace = state.trace
  assignments : result.2.assignments = state.assignments ++ [own]
  scripts : result.2.tokens.count .script = state.tokens.count .script

theorem Sound.puts (sound : Sound calls state) (member : worker ∈ state.workers) {own : Assignment}
    (blocked : state.blocked = .nothing) (owned : own.key = worker.key) (fresh : own.asked = own)
    (lasts : ∀ duration ∈ own.duration, 0 ≤ duration) :
    Submits calls own state (State.tryDeliver worker state.assignments.length
        { state with assignments := state.assignments ++ [own] }) ∧
      (State.tryDeliver worker state.assignments.length
        { state with assignments := state.assignments ++ [own] }).2.load ≤ state.load + 16 := by
  have edits : Edits worker.key state.now state.assignments calls (state.assignments ++ [own])
      (calls ++ [state.now]) := .submit owned fresh lasts
  have unstarted : own.startedAt = none := fresh ▸ rfl
  have unended : own.endedAt = none ∧ own.outcome = none := fresh ▸ ⟨rfl, rfl⟩
  have begun := startOf_append state.assignments unstarted
  obtain ⟨served, free, lane⟩ := sound.lanes worker member
  have same : ∀ job ∈ worker.phase.job?,
      (state.assignments ++ [own])[job]? = state.assignments[job]? := by
    intro job held
    obtain ⟨other, found, -⟩ := lane.mem_pending (state.job_mem_pending held)
    exact List.getElem?_append_left (List.getElem?_eq_some_iff.mp found).1
  have lane := lane.submit sound.called owned unstarted unended
  have pending : state.pending worker ++ [state.assignments.length] =
      worker.phase.job?.toList ++ (worker.mailbox.queue ++ [state.assignments.length]) := by
    rw [State.pending, blocked]
    change _ ++ [] ++ _ = _
    rw [List.append_nil, List.append_assoc]
  rw [pending] at lane
  have light := unsettled_le (state.assignments ++ [own])
  unfold State.tryDeliver
  cases full : worker.mailbox.isFull with
  | true =>
    rw [if_pos rfl]
    obtain ⟨sound', load⟩ := sound.queues member blocked full edits begun same
      ⟨served, free, lane⟩ (rfl : _ = { state with
        assignments := state.assignments ++ [own]
        blocked := .room worker.id state.assignments.length false })
    dsimp only
    exact ⟨{ sound := sound', delivered := (fun same => by cases same), waits := fun _ => ⟨_, _, rfl⟩
             clock := rfl, trace := rfl, assignments := rfl, scripts := rfl
             load := by dsimp only; omega }, by omega⟩
  | false =>
    rw [if_neg Bool.false_ne_true]
    have tokens : state.tokens = [] ++ (state.awake ++ state.upcoming) := rfl
    obtain ⟨clock, trace, assignments, -, -, scripts⟩ := State.deliver_frame worker state.assignments.length
      { state with assignments := state.assignments ++ [own] }
    generalize after_eq : ({ State.deliver worker state.assignments.length
      { state with assignments := state.assignments ++ [own] } with blocked := .nothing } : State) =
      after
    obtain ⟨sound', load⟩ := sound.delivers member tokens (fun _ same => by cases same)
      (fun id _ => by rw [blocked]; rfl)
      (by rw [blocked]; exact ⟨(fun same => by cases same), fun same => by cases same⟩) full edits
      begun same ⟨served, free, lane⟩ after_eq.symm
    exact ⟨{ sound := sound', delivered := fun _ => after_eq ▸ rfl, waits := (fun same => by cases same)
             clock := after_eq ▸ clock, trace := after_eq ▸ trace
             assignments := after_eq ▸ assignments, scripts := after_eq ▸ scripts
             load := by dsimp only; omega }, by dsimp only; omega⟩

theorem Sound.submits (sound : Sound calls state) {own : Assignment}
    (blocked : state.blocked = .nothing) (fresh : own.asked = own)
    (lasts : ∀ duration ∈ own.duration, 0 ≤ duration) :
    Submits calls own state (state.begin (.submit own)) := by
  unfold State.begin State.workerFor
  dsimp only
  cases found : state.workers.find? (·.key = own.key) with
  | some worker =>
    have owned : worker.key = own.key := by simpa using List.find?_some found
    exact (sound.puts (List.mem_of_find?_eq_some found) blocked owned.symm fresh lasts).1
  | none =>
    have strangers : ∀ worker ∈ state.workers, worker.key ≠ own.key := by
      simpa using List.find?_eq_none.mp found
    have hired := sound.hires strangers blocked
    have member : state.newWorker own.key ∈ (state.hired own.key).workers :=
      List.mem_append_right _ (List.mem_singleton.mpr rfl)
    obtain ⟨submits, load⟩ := hired.puts member blocked
      (show own.key = (state.newWorker own.key).key from rfl) fresh lasts
    rw [state.load_hired] at load
    have scripts : (state.hired own.key).tokens.count .script = state.tokens.count .script := by
      simp [State.tokens, State.hired]
    exact
      { submits with
        load := Nat.le_trans load (Nat.le_refl _)
        scripts := submits.scripts.trans scripts }

end Parley.Dispatcher
