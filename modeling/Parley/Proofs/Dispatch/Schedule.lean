import Parley.Proofs.Dispatch.Turns

/-!
The schedule of a script that stops nobody: each session is served as if it had a server of its own
that takes one job after the other.
-/

namespace Parley.Dispatcher

def endOf (assignments : List Assignment) (job : Nat) : Option Rat :=
  (assignments[job]?).bind Assignment.endedAt

/-- The job before this one in its session. -/
def previousOf (assignments : List Assignment) (job : Nat) (own : Assignment) : Option Nat :=
  (jobsOf (assignments.take job) own.key).getLast?

/-- A job was run in its turn: it started as soon as it was called for and the job before it in its
session had ended, took its time, and ended as its own turn ended. -/
structure InTurn (resolution : Rat) (assignments : List Assignment) (calls : List Rat) (job : Nat)
    (own : Assignment) : Prop where
  start : own.startedAt = some
    (readyAt ((previousOf assignments job own).bind (endOf assignments)) (callOf calls job))
  ends : ∃ started ended, own.startedAt = some started ∧ own.endedAt = some ended ∧
    started ≤ ended ∧ Lasts resolution own.duration started ended
  outcome : own.outcome = some (State.outcomeOf job own)

structure Scheduled (script : List Action) (start : Clock) (final : State) : Prop where
  finished : final.isOver
  submitted : final.assignments.map Assignment.asked = script.filterMap Action.job?
  called : (callTimes start.now script final.trace).length = final.assignments.length
  once : final.begun.Perm (List.range final.assignments.length)
  inTurn : ∀ job own, final.assignments[job]? = some own →
    InTurn start.resolution final.assignments (callTimes start.now script final.trace) job own
  apart : ∀ (earlier later : Nat) (one two : Assignment), earlier < later → final.assignments[earlier]? = some one →
    final.assignments[later]? = some two → one.key = two.key →
      ∃ ended started, one.endedAt = some ended ∧ two.startedAt = some started ∧ ended ≤ started

/-! ### Jobs of a session -/

section

variable {resolution : Rat} {assignments : List Assignment} {calls : List Rat} {free last : Option Rat}
  {jobs : List Nat} {job : Nat} {own : Assignment}

theorem jobsOf_eq_append (found : assignments[job]? = some own) : ∃ later,
    jobsOf assignments own.key = jobsOf (assignments.take job) own.key ++ job :: later := by
  have inside := (List.getElem?_eq_some_iff.mp found).1
  obtain ⟨more, length⟩ := Nat.exists_eq_add_of_lt inside
  have here : (assignments[job]?).any (fun other => decide (other.key = own.key)) = true := by
    rw [found]
    simp
  have before : (List.range job).filter
        (fun other => (assignments[other]?).any fun one => decide (one.key = own.key)) =
      jobsOf (assignments.take job) own.key := by
    rw [jobsOf, List.length_take, Nat.min_eq_left (Nat.le_of_lt inside)]
    apply List.filter_congr
    intro other member
    rw [List.getElem?_take_of_lt (List.mem_range.mp member)]
  rw [jobsOf, length, Nat.add_assoc, List.range_add, List.filter_append, before,
    List.range_succ_eq_map, List.map_cons, Nat.add_zero, List.filter_cons, if_pos here]
  exact ⟨_, rfl⟩

theorem mem_jobsOf_take {earlier : Nat} (before : earlier < job)
    (found : assignments[earlier]? = some own) : earlier ∈ jobsOf (assignments.take job) own.key :=
  mem_jobsOf.mpr ⟨own, (List.getElem?_take_of_lt before).trans found, rfl⟩

theorem le_readyAt {call ended : Rat} (past : ended ∈ free) : ended ≤ readyAt free call := by
  cases past
  exact le_max_right _ _

theorem Serves.last_eq (served : Serves (Ran resolution assignments calls) free jobs last) :
    last = (jobs.getLast?.map (endOf assignments)).getD free := by
  induction served with
  | nil => rfl
  | cons first later ih =>
    obtain ⟨own, found, -, ended, -⟩ := first
    rename_i job time rest last
    rw [ih]
    cases rest with
    | nil =>
      change some time = endOf assignments job
      rw [endOf, found, Option.bind_some, ended]
    | cons next rest => rw [List.getLast?_cons_cons]; cases h : (next :: rest).getLast? <;> simp_all

theorem Serves.forwards (served : Serves (Ran resolution assignments calls) free jobs last) :
    (∀ time ∈ free, ∃ later ∈ last, time ≤ later) ∧
      ∀ job ∈ jobs, ∃ ended later, endOf assignments job = some ended ∧ later ∈ last ∧
        ended ≤ later := by
  induction served with
  | nil => exact ⟨fun time past => ⟨time, past, le_refl _⟩, nofun⟩
  | cons first later ih =>
    obtain ⟨own, found, -, ended, takes, -⟩ := first
    rename_i free job time rest last
    obtain ⟨after, inside, goesOn⟩ := ih.1 time rfl
    constructor
    · intro past freed
      exact ⟨after, inside, ((le_readyAt freed).trans takes).trans goesOn⟩
    · intro other member
      rcases List.mem_cons.mp member with rfl | member
      · refine ⟨time, after, ?_, inside, goesOn⟩
        rw [endOf, found, Option.bind_some, ended]
      · exact ih.2 other member

/-- Each job of a session that was served was run in its turn. -/
theorem Serves.inTurn (served : Serves (Ran resolution assignments calls) none
      (jobsOf assignments own.key) last) (found : assignments[job]? = some own) :
    InTurn resolution assignments calls job own ∧
      ∀ earlier ∈ jobsOf (assignments.take job) own.key, ∃ ended started,
        endOf assignments earlier = some ended ∧ own.startedAt = some started ∧ ended ≤ started := by
  obtain ⟨later, split⟩ := jobsOf_eq_append found
  rw [split] at served
  obtain ⟨free, before, after⟩ := served.split
  cases after with
  | cons first rest =>
    obtain ⟨other, found', start, ended, takes, lasts, outcome⟩ := first
    rw [found] at found'
    cases found'
    have free_eq : (previousOf assignments job own).bind (endOf assignments) = free := by
      rw [before.last_eq, previousOf]
      cases (jobsOf (assignments.take job) own.key).getLast? <;> rfl
    refine ⟨⟨free_eq ▸ start, ⟨_, _, start, ended, takes, lasts⟩, outcome⟩, ?_⟩
    intro earlier member
    obtain ⟨ended', time, ends, freed, past⟩ := before.forwards.2 earlier member
    exact ⟨ended', _, ends, start, past.trans (le_readyAt freed)⟩

end

/-! ### The whole run -/

variable {script : List Action} {start : Clock} {calls : List Rat} {state : State}

/-- When nothing is left to do every job was served. -/
theorem Follows.served (follows : Follows script start calls state) (quiet : Quiet state)
    (key : SessionKey) : ∃ last, Serves (Ran state.clock.resolution state.assignments calls) none
      (jobsOf state.assignments key) last := by
  have gone := (follows.sound.quiet_workers quiet).1
  obtain ⟨served, free, lane⟩ := follows.sound.empty key (by rw [gone]; nofun)
  have jobs := lane.jobs
  rw [List.append_nil] at jobs
  exact ⟨free, jobs ▸ lane.serves⟩

/-- A script does not wait for ever. -/
theorem Follows.finished (follows : Follows script start calls state) (quiet : Quiet state) :
    state.isOver ∧ Told start script calls state := by
  obtain ⟨sound, past, whole, told, stage⟩ := follows
  obtain ⟨gone, unset⟩ := sound.quiet_workers quiet
  have asleep (token : Token) : token ∉ state.tokens := by
    rw [quiet.tokens]
    exact List.not_mem_nil
  cases stage with
  | unbegun none trace now blocked once =>
    rw [List.count_eq_zero.mpr (asleep _)] at once
    cases once
  | finished length rest blocked =>
    rw [rest, List.append_nil] at whole
    refine ⟨?_, whole ▸ told⟩
    rw [State.isOver, rest, blocked]
    rfl
  | suspended length suspended =>
    cases blocked : state.blocked with
    | nothing => exact absurd blocked suspended.blocked
    | workers => exact absurd blocked sound.driven
    | room id job woken =>
      obtain ⟨worker, member, -⟩ := sound.room id job woken blocked
      rw [gone] at member
      cases member
    | time =>
      have once := suspended.time blocked
      rw [List.count_eq_zero.mpr (asleep _), unset] at once
      cases once
    | jobs =>
      rcases (suspended.jobs blocked).2 with awake | set
      · exact absurd awake (asleep _)
      · rw [unset] at set
        cases set

theorem Follows.inTurn (follows : Follows script start calls state) (quiet : Quiet state) {job : Nat}
    {own : Assignment} (found : state.assignments[job]? = some own) :
    InTurn state.clock.resolution state.assignments calls job own ∧
      ∀ earlier ∈ jobsOf (state.assignments.take job) own.key, ∃ ended started,
        endOf state.assignments earlier = some ended ∧ own.startedAt = some started ∧
          ended ≤ started := by
  obtain ⟨last, served⟩ := follows.served quiet own.key
  exact served.inTurn found

theorem Follows.scheduled (follows : Follows script start calls state) (quiet : Quiet state) :
    Scheduled script start state := by
  obtain ⟨finished, told⟩ := follows.finished quiet
  have resolution := told.resolution
  have times := told.calls
  constructor
  · exact finished
  · exact told.asked
  · rw [← times]
    exact follows.sound.called.length
  · refine (List.perm_ext_iff_of_nodup follows.sound.begun.1 List.nodup_range).mpr fun job => ?_
    rw [follows.sound.begun.2, List.mem_range, startOf]
    constructor
    · intro started
      by_contra outside
      rw [List.getElem?_eq_none (Nat.le_of_not_lt outside)] at started
      cases started
    · intro inside
      have found := List.getElem?_eq_getElem inside
      rw [found, Option.bind_some, (follows.inTurn quiet found).1.start]
      rfl
  · intro job own found
    rw [← resolution, ← times]
    exact (follows.inTurn quiet found).1
  · intro earlier later one two before found found' same
    have member := mem_jobsOf_take before found
    rw [same] at member
    obtain ⟨ended, started, ends, start, order⟩ := (follows.inTurn quiet found').2 earlier member
    rw [endOf, found, Option.bind_some] at ends
    exact ⟨ended, started, ends, start, order⟩

theorem Follows.initial {limits : Limits} {time : Rat} (patience : limits.patience = .seconds time)
    (waits : 0 < time) (exact : start.precision = .exact) (resolution : 0 ≤ start.resolution) :
    Follows script start [] { limits, clock := start, rest := script } := by
  refine ⟨?_, [], rfl, ⟨rfl, rfl, rfl⟩, .unbegun rfl rfl rfl rfl rfl⟩
  constructor
  case patience => exact ⟨time, patience, waits⟩
  case exact => exact exact
  case resolution => exact resolution
  case called => exact ⟨rfl, (fun _ same => by cases same)⟩
  case begun => exact ⟨List.nodup_nil, fun job => by simp [startOf]⟩
  case toNumbered => exact Numbered.initial limits start script
  case keys => exact List.nodup_nil
  case empty =>
    intro key _
    refine ⟨[], none, rfl, .nil none, (fun _ same => by cases same), (fun _ same => by cases same),
      fun _ => ⟨(fun _ same => by cases same), fun _ same => by cases same⟩,
      fun same => by cases same⟩
  case durations | kept | unstopped | sizes | posted | lanes => exact List.forall_mem_nil _
  case room => exact fun _ _ _ blocked => by cases blocked
  case waits => exact fun set => by cases set
  case driven => exact fun same => by cases same

theorem Follows.initial_rank (limits : Limits) :
    ({ limits, clock := start, rest := script } : State).rank ≤ turnsFor script := by
  have weight (action : Action) : action.weight ≤ 24 := by cases action <;> simp [Action.weight]
  have weights : (script.map Action.weight).sum ≤ script.length * 24 := by
    have each : ∀ weight ∈ script.map Action.weight, weight ≤ 24 := by
      intro _ member
      obtain ⟨action, -, rfl⟩ := List.mem_map.mp member
      exact weight action
    simpa using List.sum_le_card_nsmul _ 24 each
  have effort : ({ limits, clock := start, rest := script } : State).effort =
      1 + (script.map Action.weight).sum := rfl
  rw [State.rank, effort, turnsFor]
  change 2 * _ + 0 ≤ _
  omega

/-- Every session of a script that stops nobody is served in order, whatever the size of its mailbox and
however long its worker waits: each job is run once, as soon as it was called for and the one before it
in its session has ended, however many other sessions there are. -/
theorem sessions_are_served_in_order (limits : Limits) (start : Clock) (script : List Action)
    {time : Rat} (patience : limits.patience = .seconds time) (waits : 0 < time)
    (exact : start.precision = .exact) (resolution : 0 ≤ start.resolution)
    (plain : ∀ action ∈ script, action.IsPlain) {turns : Nat} (enough : turnsFor script ≤ turns) :
    Scheduled script start (State.turn^[turns] { limits, clock := start, rest := script }) := by
  obtain ⟨calls, follows, quiet⟩ :=
    (Follows.initial patience waits exact resolution).rests plain
      ((Follows.initial_rank limits).trans enough)
  exact follows.scheduled quiet

/-- Also those of a mailbox that holds one job, with a turn that crashes and a worker that goes. -/
theorem rush_is_served_in_order :
    let script : List Action := [
      .submit { key := ⟨"bot", "ann"⟩, duration := some 1 },
      .submit { key := ⟨"bot", "ann"⟩, duration := some 2, crashes := true },
      .submit { key := ⟨"bot", "ann"⟩ },
      .submit { key := ⟨"bot", "ben"⟩, duration := some 1 },
      .sleep 10,
      .submit { key := ⟨"bot", "ann"⟩, duration := some 1 },
      .join]
    (∀ action ∈ script, action.IsPlain) ∧
      Scheduled script { resolution := 0 } (State.turn^[turnsFor script]
        { limits := { mailboxSize := 1, patience := .seconds 1 }
          clock := { resolution := 0 }
          rest := script }) := by
  intro script
  have plain : ∀ action ∈ script, action.IsPlain := by
    simp [script, Action.IsPlain, Assignment.asked]
  exact ⟨plain, sessions_are_served_in_order _ _ _ rfl (show (0 : Rat) < 1 by norm_num) rfl
    (le_refl _) plain (Nat.le_refl _)⟩

end Parley.Dispatcher
