import Mathlib.Data.List.Count
import Parley.Proofs.Dispatch.Script

/-!
Rounds: between two of them alarms go off, and time passes when nobody is awake.
-/

namespace Parley.Dispatcher

variable {calls : List Rat} {state : State}

/-! ### Alarms go off -/

theorem Sound.rung_kept (sound : Sound calls state) {alarm : Alarm}
    (member : alarm ∈ state.allAlarms) :
    (State.Alarm.rung state.ringing alarm).Kept state.clock := by
  have kept := sound.kept alarm member
  obtain ⟨-, due⟩ := rung_serial state.ringing alarm
  refine ⟨due ▸ kept.ahead, ?_⟩
  rw [due]
  unfold State.Alarm.rung
  intro rings
  by_cases inside : alarm.serial ∈ state.ringing
  · have isDue := ((sound.mem_ringing member).mp inside).2
    have resolution := sound.resolution
    unfold Clock.isDue Clock.horizon at isDue
    rw [sound.exact] at isDue
    rw [Bool.or_eq_true, decide_eq_true_eq, decide_eq_true_eq, Number.Precision.exact_add] at isDue
    rcases isDue with past | soon
    · linarith
    · exact soon.le
  · rw [if_neg (mt List.contains_iff_mem.mp inside)] at rings
    exact kept.due rings

theorem Sound.rung_posted (sound : Sound calls state) {worker : Worker}
    (member : worker ∈ state.workers) :
    (worker.rung state.ringing).Posted state.ring.tokens state.clock state.assignments := by
  have posted := sound.posted worker member
  have count : state.ring.tokens.count (.worker worker.id) =
      state.tokens.count (.worker worker.id) := state.count_ring nofun
  have none (unset : worker.alarm = none) : (worker.rung state.ringing).alarm = none := by
    rw [Worker.rung, unset]
    rfl
  unfold Worker.Posted at posted ⊢
  dsimp only [Worker.rung] at none ⊢
  rw [count]
  split at posted
  case h_1 | h_2 | h_3 | h_4 => exact ⟨posted.1, none posted.2⟩
  case h_5 => exact ⟨posted.1, none posted.2.1, posted.2.2⟩
  case h_6 =>
    obtain ⟨once, alarm, set, order⟩ := posted
    refine ⟨once, _, by rw [set]; rfl, fun rings => ?_⟩
    rw [(rung_serial _ _).1, State.ring_tokens] at rings ⊢
    rcases List.mem_append.mp rings with old | new
    · exact (order old).trans (List.sublist_append_left _ _)
    · have present : .worker worker.id ∈ state.tokens := List.count_pos_iff.mp (by omega)
      exact (List.singleton_sublist.mpr present).append (List.singleton_sublist.mpr new)
  case h_7 =>
    refine ⟨posted.1, ?_, posted.2.2⟩
    rw [Option.isSome_map]
    exact posted.2.1
  case h_8 job running =>
    obtain ⟨own, started, found, start, ⟨once, unset, lasts⟩ | ⟨zero, alarm, set, due⟩⟩ := posted
    · exact ⟨own, started, found, start, Or.inl ⟨once, none unset, lasts⟩⟩
    · refine ⟨own, started, found, start, Or.inr ⟨zero, _, by rw [set]; rfl, ?_⟩⟩
      rw [(rung_serial _ _).2, due]
  case h_9 => exact posted

theorem Sound.ring (sound : Sound calls state) : Sound calls state.ring := by
  have mem {worker : Worker} (member : worker ∈ state.ring.workers) :
      ∃ old ∈ state.workers, old.rung state.ringing = worker := List.mem_map.mp member
  have keys : state.ring.workers.map (·.key) = state.workers.map (·.key) := by
    rw [State.ring_eq, List.map_map]
    rfl
  constructor
  case toNumbered => exact sound.toNumbered.ring
  case keys => exact keys ▸ sound.keys
  case kept =>
    intro alarm member
    rw [State.ring_allAlarms] at member
    obtain ⟨old, inside, rfl⟩ := List.mem_map.mp member
    exact sound.rung_kept inside
  case unstopped =>
    intro worker member
    obtain ⟨old, inside, rfl⟩ := mem member
    exact sound.unstopped old inside
  case sizes =>
    intro worker member
    obtain ⟨old, inside, rfl⟩ := mem member
    exact sound.sizes old inside
  case posted =>
    intro worker member
    obtain ⟨old, inside, rfl⟩ := mem member
    exact sound.rung_posted inside
  case lanes =>
    intro worker member
    obtain ⟨old, inside, rfl⟩ := mem member
    exact sound.lanes old inside
  case empty =>
    intro key strangers
    refine sound.empty key fun worker member => ?_
    exact strangers (worker.rung state.ringing) (List.mem_map_of_mem member)
  case room =>
    intro id job woken blocked
    obtain ⟨worker, member, same, kept⟩ := sound.room id job woken blocked
    refine ⟨worker.rung state.ringing, List.mem_map_of_mem member, same, kept.full, fun awake => ?_⟩
    obtain ⟨free, took, order⟩ := kept.free awake
    refine ⟨free, took, ?_⟩
    rw [State.ring_tokens]
    exact order.trans (List.sublist_append_left _ _)
  case waits =>
    intro rings
    refine sound.waits ?_
    rwa [State.ring_eq, Option.isSome_map] at rings
  all_goals first
    | exact sound.patience | exact sound.exact | exact sound.resolution | exact sound.called
    | exact sound.durations | exact sound.begun | exact sound.driven

/-! ### What alarms weigh -/

theorem sum_weight (workers : List Worker) : (workers.map Worker.weight).sum =
    (workers.map fun worker => ({ worker with alarm := none } : Worker).weight).sum +
      ((workers.filterMap (·.alarm)).map Alarm.weight).sum := by
  induction workers with
  | nil => rfl
  | cons worker rest ih =>
    have weight : worker.weight =
        ({ worker with alarm := none } : Worker).weight + worker.alarm.elim 0 Alarm.weight := rfl
    rw [List.map_cons, List.sum_cons, List.map_cons, List.sum_cons, ih, weight, List.filterMap_cons]
    cases worker.alarm with
    | none => simp only [Option.elim_none]; omega
    | some alarm => simp only [Option.elim_some, List.map_cons, List.sum_cons]; omega

theorem State.load_eq (state : State) : state.load = state.tokens.length +
    (state.workers.map fun worker => ({ worker with alarm := none } : Worker).weight).sum +
    (state.allAlarms.map Alarm.weight).sum + state.blocked.weight + unsettled state.assignments := by
  rw [State.load, sum_weight, State.allAlarms, List.map_append, List.sum_append]
  cases state.alarm with
  | none => simp only [Option.elim_none, Option.toList_none, List.map_nil, List.sum_nil]; omega
  | some alarm => simp only [Option.elim_some, Option.toList_some, List.map_singleton,
      List.sum_singleton]; omega

theorem rung_weight {state : State} {alarms : List Alarm}
    (rings : ∀ alarm ∈ alarms, alarm.serial ∈ state.ringing ↔
      alarm.ringing = false ∧ state.clock.isDue alarm.due = true) :
    ((alarms.filter fun alarm => !alarm.ringing).filter
        fun alarm => state.clock.isDue alarm.due).length +
      ((alarms.map (State.Alarm.rung state.ringing)).map Alarm.weight).sum =
        (alarms.map Alarm.weight).sum := by
  induction alarms with
  | nil => rfl
  | cons alarm rest ih =>
    have ih := ih fun other member => rings other (List.mem_cons_of_mem _ member)
    have first := rings alarm List.mem_cons_self
    simp only [List.map_cons, List.sum_cons]
    by_cases goes : alarm.ringing = false ∧ state.clock.isDue alarm.due = true
    · have inside := first.mpr goes
      have lighter : (State.Alarm.rung state.ringing alarm).weight = 1 := by
        rw [State.Alarm.rung, if_pos (List.contains_iff_mem.mpr inside)]
        rfl
      have heavy : alarm.weight = 2 := by
        rw [Alarm.weight, goes.1]
        rfl
      rw [List.filter_cons_of_pos (by simp [goes.1]), List.filter_cons, if_pos goes.2,
        List.length_cons, lighter, heavy]
      omega
    · have outside := mt first.mp goes
      have still : State.Alarm.rung state.ringing alarm = alarm :=
        if_neg (mt List.contains_iff_mem.mp outside)
      rw [still]
      by_cases silent : alarm.ringing = false
      · have later : ¬ state.clock.isDue alarm.due = true := fun due => goes ⟨silent, due⟩
        rw [List.filter_cons_of_pos (by simp [silent]), List.filter_cons, if_neg later]
        omega
      · rw [List.filter_cons_of_neg (by simpa using silent)]
        omega

theorem Sound.ring_load (sound : Sound calls state) : state.ring.load = state.load := by
  have workers : (state.ring.workers.map fun worker =>
        ({ worker with alarm := none } : Worker).weight) =
      state.workers.map fun worker => ({ worker with alarm := none } : Worker).weight := by
    rw [State.ring_eq, List.map_map]
    rfl
  have length : state.ringing.length =
      (state.alarms.filter fun alarm => state.clock.isDue alarm.due).length := by
    rw [State.ringing, List.length_map, List.length_mergeSort]
  have weights := rung_weight fun alarm member => sound.mem_ringing member
  rw [State.load_eq, State.load_eq, workers, State.ring_tokens, List.length_append, List.length_map,
    State.ring_allAlarms, length, State.alarms]
  change _ + ((state.allAlarms.filter _).filter _).length + _ + _ + state.blocked.weight +
    unsettled state.assignments = _
  omega

/-! ### Time passes -/

theorem Sound.quiet_alarms (sound : Sound calls state) (quiet : state.tokens = []) :
    state.alarms = state.allAlarms := by
  refine List.filter_eq_self.mpr fun alarm member => ?_
  have rings := sound.rings alarm member
  rw [quiet] at rings
  cases silent : alarm.ringing with
  | false => rfl
  | true =>
    rw [silent] at rings
    cases rings

theorem Sound.quiet_worker (sound : Sound calls state) (quiet : state.tokens = []) {worker : Worker}
    (member : worker ∈ state.workers) :
    worker.alarm.isSome ∧ (worker.phase.isRunning = true ∨ state.pending worker = []) := by
  have posted := sound.posted worker member
  unfold Worker.Posted at posted
  rw [quiet, List.count_nil] at posted
  cases phase : worker.phase with
  | waiting =>
    rw [phase] at posted
    refine ⟨posted.2.1, Or.inr ?_⟩
    have none := sound.jobFor_nil member posted.2.2 (by rw [phase]; rfl)
    rw [State.pending, phase, posted.2.2, none]
    rfl
  | running job =>
    rw [phase] at posted
    obtain ⟨own, started, found, start, ⟨none, -⟩ | ⟨-, alarm, set, -⟩⟩ := posted
    · cases none
    · exact ⟨by rw [set]; rfl, Or.inl rfl⟩
  | created | looking | handed | took | ready | expiring =>
    rw [phase] at posted
    cases posted.1
  | stillborn | aborting | closing | dead =>
    rw [phase] at posted
    exact posted.elim

theorem Worker.Posted.later {tokens : List Token} {clock : Clock} {assignments : List Assignment}
    {worker : Worker} (posted : worker.Posted tokens clock assignments)
    (asleep : tokens.count (.worker worker.id) = 0) (later : Clock) :
    worker.Posted tokens later assignments := by
  unfold Posted at posted ⊢
  rw [asleep] at posted ⊢
  split at posted
  case h_7 => exact posted
  case h_8 =>
    obtain ⟨own, started, found, start, ⟨none, -⟩ | set⟩ := posted
    · cases none
    · exact ⟨own, started, found, start, Or.inr set⟩
  case h_9 => exact posted
  all_goals cases posted.1

theorem Sound.passTime (sound : Sound calls state) (quiet : state.tokens = []) :
    Sound calls state.passTime := by
  unfold State.passTime
  cases found : State.earliest? state.alarms with
  | none => exact sound
  | some due =>
    obtain ⟨⟨first, member, rfl⟩, least⟩ := earliest_some found
    obtain ⟨precision, resolution, passes, before, -⟩ := passTo_spec first.due state.clock
    rw [sound.quiet_alarms quiet] at member least
    have before := before (sound.kept first member).ahead
    constructor
    case toNumbered => exact { sound.toNumbered with }
    case exact => exact precision.trans sound.exact
    case resolution =>
      change 0 ≤ (state.clock.passTo first.due).resolution
      rw [resolution]
      exact sound.resolution
    case called => exact ⟨sound.called.length, fun call made => (sound.called.past call made).trans passes⟩
    case kept =>
      intro alarm set
      refine ⟨before.trans (least alarm set), fun rings => ?_⟩
      have inside := (sound.mem_bell set).mpr rings
      rw [quiet] at inside
      cases inside
    case posted =>
      refine fun worker inside => (sound.posted worker inside).later ?_ _
      rw [quiet, List.count_nil]
    case lanes =>
      intro worker inside
      obtain ⟨served, free, lane⟩ := sound.lanes worker inside
      have lane := lane.pass passes (sound.quiet_worker quiet inside).2
      rw [← resolution] at lane
      exact ⟨served, free, lane⟩
    case empty =>
      intro key strangers
      obtain ⟨served, free, lane⟩ := sound.empty key strangers
      have lane := lane.pass passes (Or.inr rfl)
      rw [← resolution] at lane
      exact ⟨served, free, lane⟩
    all_goals first
      | exact sound.patience | exact sound.durations | exact sound.begun | exact sound.keys
      | exact sound.unstopped | exact sound.sizes | exact sound.room | exact sound.waits
      | exact sound.driven

/-! ### The next round -/

/-- Nobody is awake, and nobody will be. -/
structure Quiet (state : State) : Prop where
  tokens : state.tokens = []
  alarms : state.alarms = []

theorem Sound.shift (sound : Sound calls state) {awake upcoming : List Token}
    (same : awake ++ upcoming = state.tokens) : Sound calls { state with awake, upcoming } := by
  refine sound.spare (?_ : Spares [] [] state _)
  exact
    { workers := rfl, limits := rfl, clock := rfl, assignments := rfl, begun := rfl
      serial := Nat.le_refl _
      tokens := ⟨_, rfl, same.trans (List.append_nil _).symm⟩
      strangers := fun _ _ => List.not_mem_nil
      bells := fun _ _ _ _ => List.not_mem_nil
      wakes := nofun
      jobs := fun _ => rfl
      rooms := fun _ _ _ blocked => ⟨blocked, fun _ => List.not_mem_nil⟩
      alarms := fun alarm set =>
        ⟨sound.kept alarm (State.mem_allAlarms.mpr (Or.inl set)), Or.inr ⟨set, List.not_mem_nil⟩⟩
      waits := sound.waits
      driven := sound.driven }

structure NextRound (calls : List Rat) (state after : State) : Prop where
  sound : Sound calls after
  load : after.load = state.load
  awake : ¬ Quiet state → after.awake ≠ []
  clock : state.tokens ≠ [] → after.clock = state.clock
  resolution : after.clock.resolution = state.clock.resolution
  tokens : ∀ token ∈ state.tokens, token ∈ after.tokens
  scripts : after.tokens.count .script = state.tokens.count .script
  alarm : after.alarm.isSome = state.alarm.isSome
  rest : after.rest = state.rest
  trace : after.trace = state.trace
  blocked : after.blocked = state.blocked
  assignments : after.assignments = state.assignments

theorem Sound.nextRound (sound : Sound calls state) (none : state.awake = []) :
    NextRound calls state state.nextRound := by
  have tokens : state.tokens = state.upcoming := by rw [State.tokens, none, List.nil_append]
  generalize middle_eq : (if state.upcoming.isEmpty then state.passTime else state) = middle
  have next : state.nextRound = { middle.ring with awake := middle.ring.upcoming, upcoming := [] } := by
    rw [← middle_eq]
    rfl
  have sound' : Sound calls middle := by
    rw [← middle_eq]
    split
    · rename_i empty
      exact sound.passTime (tokens.trans (List.isEmpty_iff.mp empty))
    · exact sound
  obtain ⟨clock, clocked, resolution, still⟩ : ∃ clock, middle = { state with clock } ∧
      clock.resolution = state.clock.resolution ∧
        (state.tokens ≠ [] → clock = state.clock) := by
    rw [← middle_eq]
    split
    · rename_i empty
      obtain ⟨clock, clocked, resolution⟩ := state.passTime_eq
      exact ⟨clock, clocked, resolution,
        fun some => absurd (tokens.trans (List.isEmpty_iff.mp empty)) some⟩
    · exact ⟨state.clock, rfl, rfl, fun _ => rfl⟩
  have rings : ¬ Quiet state → state.upcoming ++ middle.ringing.map Token.bell ≠ [] := by
    intro awake nothing
    obtain ⟨empty, silent⟩ := List.append_eq_nil_iff.mp nothing
    rw [empty, List.isEmpty_nil, if_pos rfl] at middle_eq
    have some : state.alarms ≠ [] := fun alarms => awake ⟨tokens.trans empty, alarms⟩
    exact State.passTime_rings some (middle_eq ▸ List.map_eq_nil_iff.mp silent)
  have upcoming : middle.ring.upcoming = state.upcoming ++ middle.ringing.map Token.bell := by
    rw [State.ring_eq, clocked]
  have order : middle.ring.upcoming ++ [] = middle.ring.tokens := by
    rw [State.tokens, State.ring_eq, clocked, none, List.append_nil]
    rfl
  rw [next]
  exact
    { sound := sound'.ring.shift order
      load := by
        have same : middle.load = state.load := by rw [clocked]; rfl
        rw [← same, ← sound'.ring_load, State.load, State.load, ← order]
        rfl
      awake := fun busy => by
        dsimp only
        rw [upcoming]
        exact rings busy
      clock := fun busy => by
        rw [State.ring_eq, clocked]
        exact still busy
      resolution := by
        rw [State.ring_eq, clocked]
        exact resolution
      tokens := by
        intro token member
        change token ∈ middle.ring.upcoming ++ []
        rw [List.append_nil, upcoming, ← tokens]
        exact List.mem_append_left _ member
      scripts := by
        change (middle.ring.upcoming ++ []).count Token.script = _
        have silent : Token.script ∉ middle.ringing.map Token.bell := by simp
        rw [List.append_nil, upcoming, tokens, List.count_append, List.count_eq_zero.mpr silent,
          Nat.add_zero]
      alarm := by rw [State.ring_eq, clocked, Option.isSome_map]
      rest := by rw [State.ring_eq, clocked]
      trace := by rw [State.ring_eq, clocked]
      blocked := by rw [State.ring_eq, clocked]
      assignments := by rw [State.ring_eq, clocked] }

theorem Sound.quiet_workers (sound : Sound calls state) (quiet : Quiet state) :
    state.workers = [] ∧ state.alarm = none := by
  have none : state.allAlarms = [] := sound.quiet_alarms quiet.tokens ▸ quiet.alarms
  constructor
  · refine List.eq_nil_iff_forall_not_mem.mpr fun worker member => ?_
    obtain ⟨alarm, set⟩ := Option.isSome_iff_exists.mp (sound.quiet_worker quiet.tokens member).1
    have inside := State.mem_allAlarms.mpr (Or.inr ⟨worker, member, set⟩)
    rw [none] at inside
    cases inside
  · cases set : state.alarm with
    | none => rfl
    | some alarm =>
      have inside := State.mem_allAlarms.mpr (Or.inl set)
      rw [none] at inside
      cases inside

theorem Sound.quiet_turn (sound : Sound calls state) (quiet : Quiet state) : state.turn = state := by
  obtain ⟨awake, upcoming⟩ := List.append_eq_nil_iff.mp quiet.tokens
  obtain ⟨workers, alarm⟩ := sound.quiet_workers quiet
  have passTime : state.passTime = state := by
    rw [State.passTime, quiet.alarms]
    rfl
  have ringing : state.ringing = [] := by
    rw [State.ringing, quiet.alarms, List.filter_nil, List.mergeSort_nil]
    rfl
  have turn : state.turn = { state.ring with awake := state.ring.upcoming, upcoming := [] } := by
    unfold State.turn State.nextRound
    rw [awake, upcoming, List.isEmpty_nil, if_pos rfl, passTime]
  rw [turn, State.ring_eq, ringing, workers, alarm, upcoming]
  cases state
  simp_all

end Parley.Dispatcher
