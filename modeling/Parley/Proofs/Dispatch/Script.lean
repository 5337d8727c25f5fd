import Parley.Proofs.Dispatch.Submissions

/-!
How a script is followed: its actions begin one right after the other, and the time at which a job is
submitted is the time at which the action before it was over.
-/

namespace Parley.Dispatcher

/-- An action that stops nobody; the jobs that are submitted are new and take no negative time. -/
def Action.IsPlain : Action → Prop
  | .submit own => own.asked = own ∧ ∀ duration ∈ own.duration, 0 ≤ duration
  | .stop => False
  | .sleep _ | .join => True

def Action.job? : Action → Option Assignment
  | .submit own => some own
  | _ => none

/-- The times at which the jobs of a script were submitted: the first action begins at the start, and
each later one when the one before it is over. -/
def callTimes (start : Rat) (script : List Action) (trace : List (Rat × Nat)) : List Rat :=
  (script.zip (start :: trace.map Prod.fst)).filterMap fun begun => begun.1.job?.map fun _ => begun.2

section

variable {start : Rat} {past : List Action} {trace : List (Rat × Nat)}

theorem callTimes_snoc (finished : trace.length = past.length) {now : Rat}
    (last : (start :: trace.map Prod.fst).getLast? = some now) (action : Action) :
    callTimes start (past ++ [action]) trace =
      callTimes start past trace ++ (action.job?.map fun _ => now).toList := by
  obtain ⟨earlier, times⟩ : ∃ earlier, start :: trace.map Prod.fst = earlier ++ [now] :=
    List.getLast?_eq_some_iff.mp last
  have length : past.length = earlier.length := by
    have lengths := congrArg List.length times
    rw [List.length_cons, List.length_map, List.length_append, List.length_singleton] at lengths
    omega
  have before : past.zip (earlier ++ [now]) = past.zip earlier := by
    have split : (past ++ []).zip (earlier ++ [now]) = past.zip earlier ++ [].zip [now] :=
      List.zip_append length
    simpa using split
  rw [callTimes, callTimes, times, before, List.zip_append length, List.filterMap_append]
  rfl

theorem callTimes_record (one : trace.length + 1 = past.length) (entry : Rat × Nat) :
    callTimes start past (trace ++ [entry]) = callTimes start past trace := by
  have length : past.length = (start :: trace.map Prod.fst).length := by
    rw [List.length_cons, List.length_map, one]
  have same : past.zip (start :: (trace ++ [entry]).map Prod.fst) =
      past.zip (start :: trace.map Prod.fst) := by
    have split : (past ++ []).zip (start :: trace.map Prod.fst ++ [entry.1]) =
        past.zip (start :: trace.map Prod.fst) ++ [].zip [entry.1] := List.zip_append length
    simpa using split
  rw [callTimes, callTimes, same]

end

/-- The jobs are those that were submitted, each at its time. -/
structure Told (start : Clock) (past : List Action) (calls : List Rat) (state : State) : Prop where
  calls : calls = callTimes start.now past state.trace
  asked : state.assignments.map Assignment.asked = past.filterMap Action.job?
  resolution : state.clock.resolution = start.resolution

structure AtHand (start : Clock) (past : List Action) (calls : List Rat) (state : State) : Prop where
  sound : Sound calls state
  told : Told start past calls state
  blocked : state.blocked = .nothing
  length : state.trace.length = past.length
  last : (start.now :: state.trace.map Prod.fst).getLast? = some state.now
  asleep : state.tokens.count .script = 0

structure Began (start : Clock) (past : List Action) (calls : List Rat) (state : State) : Prop where
  sound : Sound calls state
  told : Told start past calls state
  length : state.trace.length + 1 = past.length

structure Suspended (state : State) : Prop where
  blocked : state.blocked ≠ .nothing
  time : state.blocked = .time → state.tokens.count .script + state.alarm.isSome.toNat = 1
  jobs : state.blocked = .jobs →
    state.tokens.count .script = 0 ∧ (.report ∈ state.tokens ∨ state.alarm.isSome)
  room : ∀ id job woken, state.blocked = .room id job woken →
    state.tokens.count .script = woken.toNat

variable {start : Clock} {past : List Action} {calls : List Rat} {state : State} {action : Action}

theorem Began.record (began : Began start past calls state) (blocked : state.blocked = .nothing)
    (asleep : state.tokens.count .script = 0) : AtHand start past calls state.record where
  sound := { began.sound with }
  told :=
    { calls := began.told.calls.trans (callTimes_record began.length _).symm
      asked := began.told.asked
      resolution := began.told.resolution }
  blocked := blocked
  length := by
    rw [← began.length]
    exact List.length_append
  last := by
    rw [State.record, List.map_append, ← List.cons_append]
    exact List.getLast?_concat
  asleep := asleep

theorem Sound.unset (sound : Sound calls state) (time : state.blocked ≠ .time)
    (jobs : state.blocked ≠ .jobs) : state.alarm = none := by
  cases set : state.alarm with
  | none => rfl
  | some alarm => exact ((sound.waits (by rw [set]; rfl)).elim time jobs).elim

theorem AtHand.alarm (hand : AtHand start past calls state) : state.alarm = none :=
  hand.sound.unset (by rw [hand.blocked]; nofun) (by rw [hand.blocked]; nofun)

theorem AtHand.begun (hand : AtHand start past calls state) (none : action.job? = none)
    {after : State} (sound : Sound calls after) (trace : after.trace = state.trace)
    (assignments : after.assignments = state.assignments) (clock : after.clock = state.clock) :
    Began start (past ++ [action]) calls after where
  sound := sound
  told :=
    { calls := by
        rw [trace, callTimes_snoc hand.length hand.last, none, hand.told.calls]
        exact (List.append_nil _).symm
      asked := by
        rw [assignments, hand.told.asked, List.filterMap_append]
        simp [none]
      resolution := by rw [clock, hand.told.resolution] }
  length := by rw [trace, hand.length, List.length_append, List.length_singleton]

structure Awaits (woken : List Token) (state after : State) : Prop where
  workers : after.workers = state.workers
  limits : after.limits = state.limits
  clock : after.clock = state.clock
  assignments : after.assignments = state.assignments
  begun : after.begun = state.begun
  serial : state.serial ≤ after.serial
  tokens : after.tokens = state.tokens ++ woken
  wakes : ∀ token ∈ woken, token = .script ∨ token = .report
  alarm : ∀ alarm ∈ after.alarm, state.now ≤ alarm.due ∧ alarm.IsNew state after
  blocked : after.blocked = .time ∨ after.blocked = .jobs

theorem AtHand.awaits (hand : AtHand start past calls state) {woken : List Token} {after : State}
    (awaits : Awaits woken state after) : Sound calls after := by
  have room : ∀ id, after.blocked.jobFor id = [] := by
    rcases awaits.blocked with same | same <;> rw [same] <;> exact fun _ => rfl
  refine hand.sound.spare (?_ : Spares [] woken state after)
  exact
    { awaits with
      tokens := ⟨_, rfl, awaits.tokens⟩
      strangers := fun _ _ => List.not_mem_nil
      bells := fun _ _ _ _ => List.not_mem_nil
      jobs := fun id => by
        rw [room, hand.blocked]
        rfl
      rooms := by
        rcases awaits.blocked with same | same <;> rw [same] <;> nofun
      alarms := by
        intro alarm set
        obtain ⟨ahead, new⟩ := awaits.alarm alarm set
        refine ⟨⟨?_, ?_⟩, Or.inl new⟩
        · rw [awaits.clock]
          exact ahead
        · rw [new.2.2]
          nofun
      waits := fun _ => awaits.blocked
      driven := by rcases awaits.blocked with same | same <;> rw [same] <;> nofun }

theorem Awaits.load {woken : List Token} {after : State} (awaits : Awaits woken state after)
    (alarm : state.alarm = none) (blocked : state.blocked = .nothing) :
    after.load ≤ state.load +
      (woken.length + after.alarm.elim 0 Alarm.weight + after.blocked.weight) := by
  unfold State.load
  rw [awaits.tokens, awaits.workers, awaits.assignments, alarm, blocked, List.length_append]
  have : Option.elim (none : Option Alarm) 0 Alarm.weight = 0 := rfl
  omega

/-- What comes of an action that begins: it is finished at once, or the script waits. -/
structure Begins (start : Clock) (past : List Action) (calls : List Rat) (weight : Nat) (state : State)
    (result : Bool × State) : Prop where
  began : Began start past calls result.2
  finished : result.1 = true → result.2.blocked = .nothing ∧ result.2.tokens.count .script = 0
  waits : result.1 = false → Suspended result.2
  load : result.2.load ≤ state.load + weight

theorem AtHand.submits (hand : AtHand start past calls state) {own : Assignment}
    (plain : (Action.submit own).IsPlain) :
    Begins start (past ++ [.submit own]) (calls ++ [state.now]) 24 state
      (state.begin (.submit own)) := by
  have submits := hand.sound.submits hand.blocked plain.1 plain.2
  exact
    { began :=
        { sound := submits.sound
          told :=
            { calls := by
                rw [submits.trace, callTimes_snoc hand.length hand.last, hand.told.calls]
                rfl
              asked := by
                rw [submits.assignments, List.map_append, hand.told.asked, List.filterMap_append]
                exact congrArg (fun own => _ ++ [own]) plain.1
              resolution := by rw [submits.clock, hand.told.resolution] }
          length := by rw [submits.trace, hand.length, List.length_append, List.length_singleton] }
      finished := fun finished => ⟨submits.delivered finished, submits.scripts.trans hand.asleep⟩
      waits := by
        intro waits
        obtain ⟨id, job, blocked⟩ := submits.waits waits
        refine ⟨by rw [blocked]; nofun, by rw [blocked]; nofun, by rw [blocked]; nofun, ?_⟩
        intro id' job' woken waits
        rw [blocked] at waits
        cases waits
        exact submits.scripts.trans hand.asleep
      load := Nat.le_succ_of_le submits.load }

theorem AtHand.waits (hand : AtHand start past calls state) (none : action.job? = none)
    {woken : List Token} {after : State} (awaits : Awaits woken state after)
    (trace : after.trace = state.trace) (suspended : Suspended after) {weight : Nat}
    (light : woken.length + after.alarm.elim 0 Alarm.weight + after.blocked.weight ≤ weight) :
    Begins start (past ++ [action]) calls weight state (false, after) where
  began := hand.begun none (hand.awaits awaits) trace awaits.assignments awaits.clock
  finished := nofun
  waits := fun _ => suspended
  load := (awaits.load hand.alarm hand.blocked).trans (Nat.add_le_add_left light _)

theorem AtHand.sets (hand : AtHand start past calls state) {seconds : Rat} (positive : 0 ≤ seconds)
    {blocked : Blocked} (kind : blocked = .time ∨ blocked = .jobs) : Awaits [] state { state with
      serial := state.serial + 1, blocked
      alarm := some { due := state.clock.due seconds, serial := state.serial } } where
  workers := rfl
  limits := rfl
  clock := rfl
  assignments := rfl
  begun := rfl
  serial := Nat.le_succ _
  tokens := (List.append_nil _).symm
  wakes := nofun
  alarm alarm set := by
    cases set
    refine ⟨?_, Nat.le_refl _, Nat.lt_succ_self _, rfl⟩
    rw [State.now, Clock.due, hand.sound.exact, Number.Precision.exact_add]
    linarith
  blocked := kind

theorem AtHand.wakes (hand : AtHand start past calls state) {token : Token}
    (wakes : token = .script ∨ token = .report) {blocked : Blocked}
    (kind : blocked = .time ∨ blocked = .jobs) :
    Awaits [token] state (State.wake token { state with blocked }) where
  workers := rfl
  limits := rfl
  clock := rfl
  assignments := rfl
  begun := rfl
  serial := Nat.le_refl _
  tokens := (List.append_assoc ..).symm
  wakes other member := List.mem_singleton.mp member ▸ wakes
  alarm alarm set := by
    rw [State.wake, hand.alarm] at set
    cases set
  blocked := kind

theorem AtHand.sleeps (hand : AtHand start past calls state) (seconds : Rat) :
    Begins start (past ++ [.sleep seconds]) calls 3 state (state.begin (.sleep seconds)) := by
  unfold State.begin
  dsimp only
  by_cases none : seconds ≤ 0
  · rw [if_pos none]
    have awaits := hand.wakes (Or.inl rfl : Token.script = .script ∨ _) (Or.inl rfl)
    refine hand.waits rfl awaits rfl ⟨(fun same => by cases same), fun _ => ?_,
      (fun same => by cases same), fun _ _ _ same => by cases same⟩ ?_
    · rw [awaits.tokens, List.count_append, hand.asleep, State.wake, hand.alarm]
      rfl
    · rw [State.wake, hand.alarm]
      exact show 1 ≤ 3 by omega
  · rw [if_neg none]
    exact hand.waits rfl (hand.sets (le_of_not_ge none) (Or.inl rfl)) rfl
      ⟨(fun same => by cases same), fun _ => congrArg (· + 1) hand.asleep,
        (fun same => by cases same), fun _ _ _ same => by cases same⟩ (Nat.le_succ 2)

theorem AtHand.joins (hand : AtHand start past calls state) :
    Begins start (past ++ [.join]) calls 4 state (state.begin .join) := by
  unfold State.begin
  dsimp only
  by_cases none : state.assignments.isEmpty
  · rw [if_pos none]
    exact ⟨hand.begun rfl hand.sound rfl rfl rfl, fun _ => ⟨hand.blocked, hand.asleep⟩,
      (fun same => by cases same),
      Nat.le_add_right _ _⟩
  · rw [if_neg none]
    by_cases settled : state.allSettled
    · rw [if_pos settled]
      have awaits := hand.wakes (Or.inr rfl : Token.report = .script ∨ _) (Or.inr rfl)
      refine hand.waits rfl awaits rfl
        ⟨(fun same => by cases same), (fun same => by cases same),
          fun _ => ⟨?_, Or.inl (by simp [State.tokens, State.wake])⟩,
          fun _ _ _ same => by cases same⟩ ?_
      · rw [awaits.tokens, List.count_append, hand.asleep]
        rfl
      · rw [State.wake, hand.alarm]
        exact show 2 ≤ 4 by omega
    · rw [if_neg settled]
      have positive : (0 : Rat) ≤ State.joinTimeout := by rw [State.joinTimeout]; norm_num
      exact hand.waits rfl (hand.sets positive (Or.inr rfl)) rfl
        ⟨(fun same => by cases same), (fun same => by cases same),
          fun _ => ⟨hand.asleep, Or.inr rfl⟩, fun _ _ _ same => by cases same⟩ (Nat.le_succ 3)

theorem AtHand.begins (hand : AtHand start past calls state) (plain : action.IsPlain) :
    ∃ more, Begins start (past ++ [action]) more action.weight state (state.begin action) := by
  cases action with
  | submit own => exact ⟨_, hand.submits plain⟩
  | sleep seconds => exact ⟨calls, hand.sleeps seconds⟩
  | join => exact ⟨calls, hand.joins⟩
  | stop => exact plain.elim

/-! ### Turns of the script -/

inductive Stage (start : Clock) (past : List Action) (state : State) : Prop where
  | unbegun (past : past = []) (trace : state.trace = []) (now : state.now = start.now)
    (blocked : state.blocked = .nothing) (awake : state.tokens.count .script = 1)
  | suspended (length : state.trace.length + 1 = past.length) (suspended : Suspended state)
  | finished (length : state.trace.length = past.length) (rest : state.rest = [])
    (blocked : state.blocked = .nothing) (asleep : state.tokens.count .script = 0)

structure Follows (script : List Action) (start : Clock) (calls : List Rat) (state : State) : Prop where
  sound : Sound calls state
  stage : ∃ past, past ++ state.rest = script ∧ Told start past calls state ∧ Stage start past state

theorem AtHand.runs {actions : List Action} (plain : ∀ action ∈ actions, action.IsPlain)
    (hand : AtHand start past calls state) : ∃ more,
    Follows (past ++ actions) start more (State.runActions actions state) ∧
      (State.runActions actions state).effort ≤ state.load + (actions.map Action.weight).sum := by
  induction actions generalizing past calls state with
  | nil =>
    refine ⟨calls, ⟨{ hand.sound with }, past, rfl,
      ⟨hand.told.calls, hand.told.asked, hand.told.resolution⟩, ?_⟩, ?_⟩
    · exact .finished hand.length rfl hand.blocked hand.asleep
    · exact Nat.le_refl _
  | cons action rest ih =>
    obtain ⟨more, begins⟩ := hand.begins (plain action List.mem_cons_self)
    rw [State.runActions]
    generalize state.begin action = result at begins
    obtain ⟨finished, middle⟩ := result
    have light := begins.load
    rw [List.map_cons, List.sum_cons]
    cases finished with
    | true =>
      have next := begins.began.record (begins.finished rfl).1 (begins.finished rfl).2
      obtain ⟨last, follows, effort⟩ :=
        ih (fun other member => plain other (List.mem_cons_of_mem _ member)) next
      rw [List.append_assoc, List.singleton_append] at follows
      refine ⟨last, follows, effort.trans ?_⟩
      have same : middle.record.load = middle.load := rfl
      dsimp only at light ⊢
      omega
    | false =>
      refine ⟨more, ⟨{ begins.began.sound with }, past ++ [action], List.append_assoc .., ?_, ?_⟩, ?_⟩
      · exact ⟨begins.began.told.calls, begins.began.told.asked, begins.began.told.resolution⟩
      · have waits := begins.waits rfl
        exact .suspended begins.began.length ⟨waits.blocked, waits.time, waits.jobs, waits.room⟩
      · change middle.load + (rest.map Action.weight).sum ≤ _
        dsimp only at light
        omega

variable {script : List Action} {awake : List Token}

theorem Sound.resumes (sound : Sound calls state) (first : state.awake = .script :: awake)
    (room : ∀ id, state.blocked.jobFor id = []) :
    Sound calls { state with awake, blocked := .nothing, alarm := none } := by
  refine sound.spare (?_ : Spares [.script] [] state _)
  exact
    { workers := rfl, limits := rfl, clock := rfl, assignments := rfl, begun := rfl
      serial := Nat.le_refl _
      tokens := ⟨_, State.tokens_eq first, (List.append_nil _).symm⟩
      strangers := fun _ _ => by simp
      bells := fun _ _ _ _ => by simp
      wakes := nofun
      jobs := fun id => (room id).symm
      rooms := nofun
      alarms := nofun
      waits := nofun
      driven := nofun }

theorem load_resumes (first : state.awake = .script :: awake) :
    ({ state with awake, blocked := .nothing, alarm := none } : State).load + 1 ≤ state.load := by
  unfold State.load
  rw [State.tokens_eq first, List.length_append, List.length_singleton]
  change (awake ++ state.upcoming).length + _ + 0 + 0 + _ + 1 ≤ _
  dsimp only
  omega

theorem Began.goesOn (began : Began start past calls state) (blocked : state.blocked = .nothing)
    (alarm : state.alarm = none) (asleep : state.tokens.count .script = 0)
    (plain : ∀ action ∈ state.rest, action.IsPlain) : ∃ more,
    Follows (past ++ state.rest) start more state.goOn ∧ state.goOn.effort ≤ state.effort := by
  have same : ({ state with blocked := .nothing, alarm := none } : State) = state := by
    rw [← blocked, ← alarm]
  have hand := began.record blocked asleep
  unfold State.goOn
  dsimp only
  rw [same]
  exact hand.runs plain

/-- Following a script a step further takes something away from what is left to do. -/
structure Progresses (script : List Action) (start : Clock) (state after : State) : Prop where
  follows : ∃ more, Follows script start more after
  effort : after.effort < state.effort

theorem Sound.enters (sound : Sound calls state) (first : state.awake = .script :: awake)
    {worker : Worker} (member : worker ∈ state.workers) {job : Nat} {woken : Bool}
    (blocked : state.blocked = .room worker.id job woken) (free : worker.mailbox.isFull = false)
    {after : State} (after_eq : after = { State.deliver worker job { state with awake } with
      blocked := .nothing }) :
    Sound calls after ∧ after.load < state.load := by
  have jobs : ∀ id, id ≠ worker.id → state.blocked.jobFor id = [] := by
    intro id differs
    rw [blocked]
    exact if_neg differs.symm
  obtain ⟨served, free', lane⟩ := sound.lanes worker member
  rw [State.pending, blocked, Blocked.jobFor, if_pos rfl, List.append_assoc] at lane
  obtain ⟨sound', load⟩ := sound.delivers member (State.tokens_eq first)
    (fun token inside => List.mem_singleton.mp inside) jobs
    (by rw [blocked]; exact ⟨(fun same => by cases same), fun same => by cases same⟩) free .none
    (fun _ => rfl) (fun _ _ => rfl) ⟨served, free', lane⟩ after_eq
  refine ⟨sound', ?_⟩
  have heavy : 14 ≤ state.blocked.weight := by
    rw [blocked, Blocked.weight]
    split <;> omega
  rw [List.length_singleton] at load
  omega

theorem Sound.find_eq (sound : Sound calls state) {worker : Worker} (member : worker ∈ state.workers) :
    state.workers.find? (·.id = worker.id) = some worker := by
  cases found : state.workers.find? (·.id = worker.id) with
  | none => exact absurd (List.find?_eq_none.mp found worker member) (by simp)
  | some other =>
    have same : other.id = worker.id := by simpa using List.find?_some found
    rw [List.inj_on_of_nodup_map sound.ids (List.mem_of_find?_eq_some found) member same]

theorem asleep_of_once (first : state.awake = .script :: awake)
    (once : state.tokens.count .script ≤ 1) : (awake ++ state.upcoming).count .script = 0 := by
  rw [State.tokens_eq first, List.singleton_append, List.count_cons_self] at once
  omega

theorem Sound.scriptBegins (sound : Sound calls state) (told : Told start [] calls state)
    (trace : state.trace = []) (now : state.now = start.now)
    (plain : ∀ action ∈ state.rest, action.IsPlain) (first : state.awake = .script :: awake)
    (blocked : state.blocked = .nothing) (once : state.tokens.count .script = 1) :
    Progresses state.rest start state (({ state with awake } : State).scriptTurn) := by
  have resumed := sound.resumes first fun id => by rw [blocked]; rfl
  have asleep := asleep_of_once first once.le
  have hand : AtHand start [] calls { state with awake, blocked := .nothing, alarm := none } :=
    { sound := resumed
      told := ⟨told.calls, told.asked, told.resolution⟩
      blocked := rfl
      length := by rw [trace]; rfl
      last := by
        rw [trace, ← now]
        rfl
      asleep := asleep }
  have unset := sound.unset (by rw [blocked]; nofun) (by rw [blocked]; nofun)
  have same : ({ state with awake } : State).scriptTurn = State.runActions state.rest
      { state with awake, blocked := .nothing, alarm := none } := by
    unfold State.scriptTurn
    dsimp only
    rw [blocked, unset]
  obtain ⟨more, follows, effort⟩ := hand.runs plain
  have light := load_resumes first
  rw [same]
  refine ⟨⟨more, follows⟩, effort.trans_lt ?_⟩
  rw [State.effort]
  omega

theorem Sound.scriptResumes (sound : Sound calls state) (told : Told start past calls state)
    (length : state.trace.length + 1 = past.length)
    (plain : ∀ action ∈ state.rest, action.IsPlain) (first : state.awake = .script :: awake)
    (blocked : state.blocked = .time ∨ state.blocked = .jobs)
    (once : state.tokens.count .script ≤ 1) :
    Progresses (past ++ state.rest) start state (({ state with awake } : State).scriptTurn) := by
  have resumed := sound.resumes first fun id => by rcases blocked with same | same <;> rw [same] <;> rfl
  have began : Began start past calls { state with awake, blocked := .nothing, alarm := none } :=
    ⟨resumed, ⟨told.calls, told.asked, told.resolution⟩, length⟩
  have same : ({ state with awake } : State).scriptTurn =
      State.goOn { state with awake, blocked := .nothing, alarm := none } := by
    unfold State.scriptTurn
    dsimp only
    rcases blocked with same | same <;> rw [same] <;> rfl
  have asleep := asleep_of_once first once
  obtain ⟨more, follows, effort⟩ := began.goesOn rfl rfl asleep plain
  have light := load_resumes first
  rw [same]
  refine ⟨⟨more, follows⟩, effort.trans_lt ?_⟩
  rw [State.effort, State.effort]
  dsimp only
  omega

theorem Sound.scriptEnters (sound : Sound calls state) (told : Told start past calls state)
    (length : state.trace.length + 1 = past.length)
    (plain : ∀ action ∈ state.rest, action.IsPlain) (first : state.awake = .script :: awake)
    {id job : Nat} {woken : Bool} (blocked : state.blocked = .room id job woken)
    (scripts : state.tokens.count .script = woken.toNat) :
    Progresses (past ++ state.rest) start state (({ state with awake } : State).scriptTurn) := by
  obtain ⟨worker, member, rfl, kept⟩ := sound.room id job woken blocked
  have scriptTurn : ({ state with awake } : State).scriptTurn =
      if (State.tryDeliver worker job { state with awake }).1
      then (State.tryDeliver worker job { state with awake }).2.goOn
      else (State.tryDeliver worker job { state with awake }).2 := by
    unfold State.scriptTurn
    dsimp only
    rw [blocked]
    dsimp only
    rw [sound.find_eq member]
    dsimp only
    generalize State.tryDeliver worker job _ = delivery
    rcases delivery with ⟨_ | _, after⟩ <;> rfl
  rw [scriptTurn]
  unfold State.tryDeliver
  cases woken with
  | true =>
    obtain ⟨free, -⟩ := kept.free rfl
    obtain ⟨clock, trace, assignments, rest, alarm, same⟩ := State.deliver_frame worker job { state with awake }
    rw [free, if_neg Bool.false_ne_true]
    generalize after_eq : ({ State.deliver worker job { state with awake } with
      blocked := .nothing } : State) = after
    have clock : after.clock = state.clock := after_eq ▸ clock
    have trace : after.trace = state.trace := after_eq ▸ trace
    have assignments : after.assignments = state.assignments := after_eq ▸ assignments
    have rest : after.rest = state.rest := after_eq ▸ rest
    have unset : after.alarm = none := by
      rw [← after_eq]
      refine alarm.trans (sound.unset ?_ ?_) <;> rw [blocked] <;> intro same <;> cases same
    obtain ⟨sound', load⟩ := sound.enters first member blocked free after_eq.symm
    have began : Began start past calls after :=
      ⟨sound', ⟨trace ▸ told.calls, assignments ▸ told.asked, clock ▸ told.resolution⟩, trace ▸ length⟩
    have none := asleep_of_once first scripts.le
    have asleep : after.tokens.count .script = 0 := by
      rw [← after_eq]
      exact same.trans none
    obtain ⟨more, follows, effort⟩ := began.goesOn (after_eq ▸ rfl) unset asleep (rest ▸ plain)
    rw [rest] at follows
    refine ⟨⟨more, follows⟩, effort.trans_lt ?_⟩
    rw [State.effort, State.effort, rest]
    omega
  | false =>
    have inside : Token.script ∈ state.tokens := State.tokens_eq first ▸ List.mem_cons_self
    exact absurd inside (List.count_eq_zero.mp scripts)

theorem Follows.scriptTurn (follows : Follows script start calls state)
    (plain : ∀ action ∈ script, action.IsPlain) (first : state.awake = .script :: awake) :
    Progresses script start state (({ state with awake } : State).scriptTurn) := by
  obtain ⟨sound, past, rfl, told, stage⟩ := follows
  have plain : ∀ action ∈ state.rest, action.IsPlain := fun action member =>
    plain action (List.mem_append_right _ member)
  cases stage with
  | unbegun none trace now blocked once =>
    subst none
    exact sound.scriptBegins told trace now plain first blocked once
  | suspended length suspended =>
    have kind : (state.blocked = .time ∨ state.blocked = .jobs) ∨
        ∃ id job woken, state.blocked = .room id job woken := by
      cases blocked : state.blocked with
      | nothing => exact absurd blocked suspended.blocked
      | workers => exact absurd blocked sound.driven
      | room id job woken => exact Or.inr ⟨id, job, woken, rfl⟩
      | time => exact Or.inl (Or.inl rfl)
      | jobs => exact Or.inl (Or.inr rfl)
    rcases kind with blocked | ⟨id, job, woken, blocked⟩
    · refine sound.scriptResumes told length plain first blocked ?_
      rcases blocked with time | jobs
      · have := suspended.time time
        omega
      · have := (suspended.jobs jobs).1
        omega
    · exact sound.scriptEnters told length plain first blocked (suspended.room id job woken blocked)
  | finished length rest blocked asleep =>
    have inside : Token.script ∈ state.tokens := State.tokens_eq first ▸ List.mem_cons_self
    exact absurd inside (List.count_eq_zero.mp asleep)

end Parley.Dispatcher
