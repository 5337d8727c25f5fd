import Mathlib.Logic.Function.Iterate
import Parley.Proofs.Dispatch.Rounds

/-!
Turns, whoever takes them: a script is followed a step further, and less is left to do.
-/

namespace Parley.Dispatcher

variable {script : List Action} {start : Clock} {calls : List Rat} {state after : State}
  {awake : List Token}

theorem Follows.advance (follows : Follows script start calls state)
    (advances : Advances calls state after) : Progresses script start state after := by
  obtain ⟨sound, past, whole, told, stage⟩ := follows
  have room (waits : Blocked) (kind : ∀ id job woken, waits ≠ .room id job woken) :
      after.blocked = waits ↔ state.blocked = waits := by
    rcases advances.blocked with same | ⟨id, job, before, now⟩
    · rw [same]
    · rw [before, now]
      exact ⟨fun same => absurd same.symm (kind _ _ _), fun same => absurd same.symm (kind _ _ _)⟩
  have scripts := advances.scripts
  have still (waits : Blocked) (kind : ∀ id job woken, waits ≠ .room id job woken)
      (blocked : state.blocked = waits) : after.tokens.count .script = state.tokens.count .script := by
    rw [blocked, (room waits kind).mpr blocked] at scripts
    exact Nat.add_right_cancel scripts
  refine ⟨⟨calls, advances.sound, past, ?_, ⟨?_, ?_, ?_⟩, ?_⟩, ?_⟩
  · rw [advances.rest, whole]
  · rw [advances.trace, told.calls]
  · rw [advances.asked, told.asked]
  · rw [advances.clock, told.resolution]
  · cases stage with
    | unbegun none trace now blocked once =>
      refine .unbegun none (advances.trace.trans trace) ?_
        ((room .nothing fun _ _ _ same => by cases same).mpr blocked)
        ((still .nothing (fun _ _ _ same => by cases same) blocked).trans once)
      rw [State.now, advances.clock]
      exact now
    | suspended length suspended =>
      refine .suspended (by rw [advances.trace, length]) ⟨?_, ?_, ?_, ?_⟩
      · exact fun nothing =>
          suspended.blocked ((room .nothing fun _ _ _ same => by cases same).mp nothing)
      · intro time
        have time := (room .time (fun _ _ _ same => by cases same)).mp time
        rw [advances.alarm, still .time (fun _ _ _ same => by cases same) time]
        exact suspended.time time
      · intro jobs
        have jobs := (room .jobs (fun _ _ _ same => by cases same)).mp jobs
        rw [advances.alarm, still .jobs (fun _ _ _ same => by cases same) jobs]
        exact (suspended.jobs jobs).imp_right (Or.imp_left (advances.report jobs))
      · intro id job woken waits
        rcases advances.blocked with same | ⟨id', job', before, now⟩
        · rw [same] at scripts waits
          rw [Nat.add_right_cancel scripts]
          exact suspended.room id job woken waits
        · rw [now] at waits
          cases waits
          rw [before, now, suspended.room _ _ _ before] at scripts
          exact scripts
    | finished length rest blocked asleep =>
      exact .finished (by rw [advances.trace, length]) (advances.rest.trans rest)
        ((room .nothing fun _ _ _ same => by cases same).mpr blocked)
        ((still .nothing (fun _ _ _ same => by cases same) blocked).trans asleep)
  · have lighter := advances.load
    rw [State.effort, State.effort, advances.rest]
    omega

theorem Follows.wakesScript (follows : Follows script start calls state) {token : Token}
    (first : state.awake = token :: awake) (other : token ≠ .script)
    (stranger : ∀ worker ∈ state.workers, token ≠ .worker worker.id)
    (bell : ∀ worker ∈ state.workers, ∀ alarm ∈ worker.alarm, token ≠ .bell alarm.serial)
    (waits : state.blocked = .time ∨ state.blocked = .jobs)
    (heavy : state.alarm.isSome ∨ state.blocked = .jobs) :
    Progresses script start state
      (State.wake .script { state with awake, alarm := none, blocked := .time }) := by
  obtain ⟨sound, past, whole, told, stage⟩ := follows
  have tokens := State.tokens_eq first
  have room (id : Nat) : state.blocked.jobFor id = [] := by
    rcases waits with same | same <;> rw [same] <;> rfl
  have now : (State.wake .script { state with awake, alarm := none, blocked := .time }).tokens =
      awake ++ state.upcoming ++ [.script] := (List.append_assoc ..).symm
  have spares : Spares [token] [.script] state
      (State.wake .script { state with awake, alarm := none, blocked := .time }) :=
    { workers := rfl, limits := rfl, clock := rfl, assignments := rfl, begun := rfl
      serial := Nat.le_refl _
      tokens := ⟨_, tokens, now⟩
      strangers := fun worker member same =>
        stranger worker member (List.mem_singleton.mp same).symm
      bells := fun worker member alarm set same =>
        bell worker member alarm set (List.mem_singleton.mp same).symm
      wakes := fun _ member => Or.inl (List.mem_singleton.mp member)
      jobs := fun id => (room id).symm
      rooms := nofun
      alarms := nofun
      waits := nofun
      driven := nofun }
  refine ⟨⟨calls, sound.spare spares, past, whole, ⟨told.calls, told.asked, told.resolution⟩, ?_⟩, ?_⟩
  · cases stage with
    | suspended length suspended =>
      have asleep : state.tokens.count .script = 0 := by
        rcases waits with time | jobs
        · have set : state.alarm.isSome := by
            refine heavy.resolve_right fun jobs => ?_
            rw [time] at jobs
            cases jobs
          have once := suspended.time time
          rw [set] at once
          exact Nat.succ.inj once
        · exact (suspended.jobs jobs).1
      rw [tokens, List.singleton_append, List.count_cons_of_ne other] at asleep
      refine .suspended length ⟨nofun, fun _ => ?_, nofun, nofun⟩
      rw [now, List.count_append, asleep]
      rfl
    | unbegun none trace now blocked => rw [blocked] at waits; rcases waits with same | same <;> cases same
    | finished length rest blocked => rw [blocked] at waits; rcases waits with same | same <;> cases same
  · have weight : 1 ≤ state.alarm.elim 0 Alarm.weight + state.blocked.weight := by
      rcases heavy with set | jobs
      · obtain ⟨alarm, set⟩ := Option.isSome_iff_exists.mp set
        rw [set, Option.elim_some, Alarm.weight]
        split <;> omega
      · rw [jobs, Blocked.weight]
        omega
    have load := spares.load
    rw [List.length_singleton, List.length_singleton] at load
    change _ = state.load + (1 + 0 + 0) at load
    change _ + (state.rest.map Action.weight).sum < state.load + (state.rest.map Action.weight).sum
    omega

theorem Follows.answerBell (follows : Follows script start calls state) {serial : Nat}
    (first : state.awake = .bell serial :: awake) :
    Progresses script start state (({ state with awake } : State).answerBell serial) := by
  have sound := follows.sound
  unfold State.answerBell
  dsimp only
  by_cases own : state.alarm.any (·.serial = serial) = true
  · rw [if_pos own]
    obtain ⟨alarm, set, same⟩ := (Option.any_eq_true _ _).mp own
    have same : alarm.serial = serial := by simpa using same
    have some : state.alarm.isSome := by rw [set]; rfl
    refine follows.wakesScript first nofun (fun _ _ => nofun) (fun worker member other set' equal => ?_)
      (sound.waits some) (Or.inl some)
    exact sound.apart worker member other set' alarm set (same.trans (Token.bell.inj equal))
  · rw [if_neg own]
    cases found : state.workers.find? (·.alarm.any (·.serial = serial)) with
    | some worker =>
      have rings : worker.alarm.any (·.serial = serial) = true := by
        simpa using List.find?_some found
      obtain ⟨alarm, set, same⟩ := (Option.any_eq_true _ _).mp rings
      have same : alarm.serial = serial := by simpa using same
      subst same
      exact follows.advance (sound.answers (List.mem_of_find?_eq_some found) set first)
    | none =>
      have strangers := List.find?_eq_none.mp found
      refine follows.advance (sound.drops first (fun _ _ => nofun) ?_ ?_ nofun nofun)
      · intro worker member alarm set equal
        refine strangers worker member ((Option.any_eq_true _ _).mpr ⟨alarm, set, ?_⟩)
        simpa using (Token.bell.inj equal).symm
      · intro alarm set equal
        refine own ((Option.any_eq_true _ _).mpr ⟨alarm, set, ?_⟩)
        simpa using (Token.bell.inj equal).symm

theorem Follows.answerReport (follows : Follows script start calls state)
    (first : state.awake = .report :: awake) :
    Progresses script start state (({ state with awake } : State).answerReport) := by
  unfold State.answerReport
  dsimp only
  by_cases waits : state.blocked = .jobs
  · rw [if_pos waits]
    exact follows.wakesScript first nofun (fun _ _ => nofun) (fun _ _ _ _ => nofun) (Or.inr waits)
      (Or.inr waits)
  · rw [if_neg waits]
    exact follows.advance (follows.sound.drops first (fun _ _ => nofun) (fun _ _ _ _ => nofun)
      (fun _ _ => nofun) nofun fun _ => waits)

theorem Follows.nextRound (follows : Follows script start calls state) (none : state.awake = []) :
    Follows script start calls state.nextRound := by
  obtain ⟨sound, past, whole, told, stage⟩ := follows
  have next := sound.nextRound none
  refine ⟨next.sound, past, ?_, ⟨?_, ?_, ?_⟩, ?_⟩
  · rw [next.rest, whole]
  · rw [next.trace, told.calls]
  · rw [next.assignments, told.asked]
  · rw [next.resolution, told.resolution]
  · cases stage with
    | unbegun none trace now blocked once =>
      refine .unbegun none (next.trace.trans trace) ?_ (next.blocked.trans blocked)
        (next.scripts.trans once)
      have awake : .script ∈ state.tokens := List.count_pos_iff.mp (by omega)
      rw [State.now, next.clock (List.ne_nil_of_mem awake)]
      exact now
    | suspended length suspended =>
      refine .suspended (by rw [next.trace, length]) ⟨next.blocked ▸ suspended.blocked, ?_, ?_, ?_⟩
      · intro time
        rw [next.scripts, next.alarm]
        exact suspended.time (next.blocked ▸ time)
      · intro jobs
        rw [next.scripts, next.alarm]
        exact (suspended.jobs (next.blocked ▸ jobs)).imp_right (Or.imp_left (next.tokens _))
      · intro id job woken waits
        rw [next.scripts]
        exact suspended.room id job woken (next.blocked ▸ waits)
    | finished length rest blocked asleep =>
      exact .finished (by rw [next.trace, length]) (next.rest.trans rest) (next.blocked.trans blocked)
        (next.scripts.trans asleep)

/-! ### How many turns it takes -/

/-- A bound for the turns and rounds to come. -/
def State.rank (state : State) : Nat := 2 * state.effort + if state.awake.isEmpty then 1 else 0

theorem Progresses.rank (progresses : Progresses script start state after)
    (some : state.awake ≠ []) : after.rank < state.rank := by
  have lighter := progresses.effort
  have busy : state.awake.isEmpty = false := by simpa using some
  unfold State.rank
  rw [busy]
  split <;> simp only [Bool.false_eq_true, if_false] <;> omega

/-- In each turn a script is followed, and something of what is left to do is done. -/
theorem Follows.turn (follows : Follows script start calls state)
    (plain : ∀ action ∈ script, action.IsPlain) :
    (∃ more, Follows script start more state.turn) ∧
      (Quiet state ∨ state.turn.rank < state.rank) := by
  have sound := follows.sound
  have taken {token : Token} {awake : List Token} (first : state.awake = token :: awake)
      {after : State} (turn : state.turn = after) (progresses : Progresses script start state after) :
      (∃ more, Follows script start more state.turn) ∧
        (Quiet state ∨ state.turn.rank < state.rank) := by
    rw [turn]
    exact ⟨progresses.follows, Or.inr (progresses.rank (by rw [first]; exact List.cons_ne_nil _ _))⟩
  have unfolds : state.turn = _ := State.turn.eq_1 state
  cases first : state.awake with
  | nil =>
    rw [first] at unfolds
    rw [unfolds]
    refine ⟨⟨calls, follows.nextRound first⟩, or_iff_not_imp_left.mpr fun busy => ?_⟩
    have next := sound.nextRound first
    have awake : state.nextRound.awake.isEmpty = false := by simpa using next.awake busy
    rw [State.rank, State.rank, State.effort, State.effort, next.load, next.rest, awake, first]
    simp
  | cons token awake =>
    rw [first] at unfolds
    refine taken first unfolds ?_
    cases token with
    | script => exact follows.scriptTurn plain first
    | bell serial => exact follows.answerBell first
    | report => exact follows.answerReport first
    | worker id =>
      dsimp only
      cases found : state.workers.find? (·.id = id) with
      | some worker =>
        have same : worker.id = id := by simpa using List.find?_some found
        subst same
        exact follows.advance (sound.workerTurn (List.mem_of_find?_eq_some found) first)
      | none =>
        have strangers := List.find?_eq_none.mp found
        refine follows.advance (sound.drops first (fun worker member equal => ?_)
          (fun _ _ _ _ same => by cases same) (fun _ _ same => by cases same)
          (fun same => by cases same) fun same => by cases same)
        exact strangers worker member (by simpa using (Token.worker.inj equal).symm)

/-- A script that is followed comes to rest, with nothing left to do. -/
theorem Follows.rests (plain : ∀ action ∈ script, action.IsPlain) {turns : Nat}
    (follows : Follows script start calls state) (enough : state.rank ≤ turns) :
    ∃ more, Follows script start more (State.turn^[turns] state) ∧
      Quiet (State.turn^[turns] state) := by
  induction turns generalizing calls state with
  | zero =>
    obtain ⟨-, quiet | less⟩ := follows.turn plain
    · exact ⟨calls, follows, quiet⟩
    · omega
  | succ turns ih =>
    obtain ⟨⟨more, next⟩, quiet | less⟩ := follows.turn plain
    · rw [Function.iterate_fixed (follows.sound.quiet_turn quiet)]
      exact ⟨calls, follows, quiet⟩
    · rw [Function.iterate_succ_apply]
      exact ih next (by omega)

end Parley.Dispatcher
