import Mathlib.Algebra.Order.Ring.Unbundled.Rat
import Mathlib.Data.List.Count
import Mathlib.Order.Lattice
import Parley.Proofs.Dispatch.Parts

/-!
Workers and alarms have numbers of their own, and the bell of an alarm is on the way just when the
alarm is ringing.
-/

namespace Parley.Dispatcher

variable {state after : State} {gone woken : List Token} {actor : Option Nat} {alarm : Alarm}

/-- All alarms, whether or not they have gone off. -/
def State.allAlarms (state : State) : List Alarm :=
  state.alarm.toList ++ state.workers.filterMap (·.alarm)

theorem State.mem_allAlarms :
    alarm ∈ state.allAlarms ↔
      alarm ∈ state.alarm ∨ ∃ worker ∈ state.workers, alarm ∈ worker.alarm := by
  rw [State.allAlarms, List.mem_append, Option.mem_toList, List.mem_filterMap]
  rfl

theorem State.mem_allAlarms_of_worker {worker : Worker} (member : worker ∈ state.workers)
    (set : alarm ∈ worker.alarm) : alarm ∈ state.allAlarms :=
  State.mem_allAlarms.mpr (Or.inr ⟨worker, member, set⟩)

structure Numbered (state : State) : Prop where
  ids : (state.workers.map (·.id)).Nodup
  old : ∀ worker ∈ state.workers, worker.id < state.serial
  tickets : ∀ id, .worker id ∈ state.tokens → id < state.serial
  bells : ∀ serial, .bell serial ∈ state.tokens → serial < state.serial
  earlier : ∀ alarm ∈ state.allAlarms, alarm.serial < state.serial
  rings : ∀ alarm ∈ state.allAlarms,
    state.tokens.count (.bell alarm.serial) = alarm.ringing.toNat
  alone : ∀ worker ∈ state.workers, ∀ other ∈ state.workers, ∀ alarm ∈ worker.alarm,
    ∀ another ∈ other.alarm, alarm.serial = another.serial → worker.id = other.id
  apart : ∀ worker ∈ state.workers, ∀ alarm ∈ worker.alarm, ∀ own ∈ state.alarm,
    own.serial ≠ alarm.serial

theorem Numbered.mem_bell (numbered : Numbered state) (member : alarm ∈ state.allAlarms) :
    .bell alarm.serial ∈ state.tokens ↔ alarm.ringing = true := by
  rw [← List.count_pos_iff, numbered.rings alarm member]
  cases alarm.ringing <;> decide

theorem Numbered.initial (limits : Limits) (clock : Clock) (rest : List Action) :
    Numbered { limits, clock, rest } where
  ids := List.nodup_nil
  old := List.forall_mem_nil _
  tickets _ waits := nomatch List.mem_singleton.mp waits
  bells _ rings := nomatch List.mem_singleton.mp rings
  earlier := List.forall_mem_nil _
  rings := List.forall_mem_nil _
  alone := List.forall_mem_nil _
  apart := List.forall_mem_nil _

/-! ### Somebody acts -/

def Alarm.IsNew (state after : State) (alarm : Alarm) : Prop :=
  state.serial ≤ alarm.serial ∧ alarm.serial < after.serial ∧ alarm.ringing = false

/-- A worker acts, or the script if it is none: some had their turns, and others are woken. -/
structure Moves (actor : Option Nat) (gone woken : List Token) (state after : State) : Prop where
  tokens : ∃ rest, state.tokens = gone ++ rest ∧ after.tokens = rest ++ woken
  silent : ∀ serial, .bell serial ∉ woken
  called : ∀ id, .worker id ∈ woken → id < after.serial
  serial : state.serial ≤ after.serial
  ids : (after.workers.map (·.id)).Sublist (state.workers.map (·.id))
  others : ∀ worker ∈ after.workers, some worker.id ≠ actor → worker ∈ state.workers ∧
    .worker worker.id ∉ gone ∧ .worker worker.id ∉ woken ∧
    ∀ alarm ∈ worker.alarm, .bell alarm.serial ∉ gone
  own : ∀ worker ∈ after.workers, some worker.id = actor → ∀ alarm ∈ worker.alarm,
    alarm.IsNew state after ∨
      (∃ old ∈ state.workers, old.id = worker.id ∧ alarm ∈ old.alarm) ∧ .bell alarm.serial ∉ gone
  script : ∀ alarm ∈ after.alarm, actor = none ∧ alarm.IsNew state after ∨
    alarm ∈ state.alarm ∧ .bell alarm.serial ∉ gone

namespace Moves

theorem unmoved (moves : Moves actor gone woken state after) {token : Token} (old : token ∉ gone)
    (new : token ∉ woken) : Unmoved token state.tokens after.tokens := by
  obtain ⟨rest, before, now⟩ := moves.tokens
  exact ⟨gone, rest, woken, before, now, old, new⟩

theorem workerAlarm (moves : Moves actor gone woken state after) {worker : Worker}
    (member : worker ∈ after.workers) (set : alarm ∈ worker.alarm) :
    some worker.id = actor ∧ alarm.IsNew state after ∨
      (∃ old ∈ state.workers, old.id = worker.id ∧ alarm ∈ old.alarm) ∧ .bell alarm.serial ∉ gone := by
  by_cases acts : some worker.id = actor
  · exact (moves.own worker member acts alarm set).imp_left fun new => ⟨acts, new⟩
  · obtain ⟨old, -, -, bells⟩ := moves.others worker member acts
    exact Or.inr ⟨⟨worker, old, rfl, set⟩, bells alarm set⟩

theorem allAlarms (moves : Moves actor gone woken state after) (member : alarm ∈ after.allAlarms) :
    alarm.IsNew state after ∨ alarm ∈ state.allAlarms ∧ .bell alarm.serial ∉ gone := by
  rcases State.mem_allAlarms.mp member with own | ⟨worker, inside, set⟩
  · rcases moves.script alarm own with ⟨-, new⟩ | ⟨old, kept⟩
    · exact Or.inl new
    · exact Or.inr ⟨State.mem_allAlarms.mpr (Or.inl old), kept⟩
  · rcases moves.workerAlarm inside set with ⟨-, new⟩ | ⟨⟨before, old, -, set⟩, kept⟩
    · exact Or.inl new
    · exact Or.inr ⟨State.mem_allAlarms_of_worker old set, kept⟩

end Moves

theorem Numbered.moves (numbered : Numbered state) (moves : Moves actor gone woken state after) :
    Numbered after := by
  obtain ⟨rest, before, now⟩ := moves.tokens
  have old {token : Token} (member : token ∈ after.tokens) : token ∈ state.tokens ∨ token ∈ woken := by
    rw [now] at member
    rw [before]
    exact (List.mem_append.mp member).imp_left (List.mem_append_right gone)
  constructor
  case ids => exact numbered.ids.sublist moves.ids
  case old =>
    intro worker member
    obtain ⟨other, inside, same⟩ := List.mem_map.mp (moves.ids.mem (List.mem_map_of_mem member))
    have := numbered.old other inside
    have := moves.serial
    omega
  case tickets =>
    intro id waits
    rcases old waits with before | new
    · exact Nat.lt_of_lt_of_le (numbered.tickets id before) moves.serial
    · exact moves.called id new
  case bells =>
    intro serial rings
    rcases old rings with before | new
    · exact Nat.lt_of_lt_of_le (numbered.bells serial before) moves.serial
    · exact absurd new (moves.silent serial)
  case earlier =>
    intro alarm member
    rcases moves.allAlarms member with new | ⟨old, -⟩
    · exact new.2.1
    · exact Nat.lt_of_lt_of_le (numbered.earlier alarm old) moves.serial
  case rings =>
    intro alarm member
    rcases moves.allAlarms member with ⟨later, -, silent⟩ | ⟨kept, waits⟩
    · have unheard : .bell alarm.serial ∉ after.tokens := fun rings =>
        (old rings).elim (fun before => Nat.not_lt.mpr later (numbered.bells _ before))
          (moves.silent _)
      rw [silent, List.count_eq_zero.mpr unheard]
      rfl
    · rw [(moves.unmoved waits (moves.silent _)).count]
      exact numbered.rings alarm kept
  case alone =>
    intro one inside two inside' alarm set another set' same
    have fresh {other : Worker} {alarm : Alarm} (member : other ∈ state.workers)
        (set : alarm ∈ other.alarm) : alarm.serial < state.serial :=
      numbered.earlier alarm (State.mem_allAlarms_of_worker member set)
    rcases moves.workerAlarm inside set with ⟨acts, later, -⟩ | ⟨⟨old, member, id, set⟩, -⟩ <;>
      rcases moves.workerAlarm inside' set' with ⟨acts', later', -⟩ | ⟨⟨old', member', id', set'⟩, -⟩
    · exact Option.some.inj (acts.trans acts'.symm)
    · have := fresh member' set'
      omega
    · have := fresh member set
      omega
    · exact id.symm.trans
        ((numbered.alone old member old' member' alarm set another set' same).trans id')
  case apart =>
    intro worker member alarm set own set' same
    rcases moves.workerAlarm member set with ⟨acts, later, -⟩ | ⟨⟨old, inside, -, set⟩, -⟩ <;>
      rcases moves.script own set' with ⟨none, later', -⟩ | ⟨before, -⟩
    · rw [none] at acts
      cases acts
    · have := numbered.earlier own (State.mem_allAlarms.mpr (Or.inl before))
      omega
    · have := numbered.earlier alarm (State.mem_allAlarms_of_worker inside set)
      omega
    · exact numbered.apart old inside alarm set own before same

theorem State.hired_tokens (key : SessionKey) (state : State) :
    (state.hired key).tokens = state.tokens ++ [.worker state.serial] := (List.append_assoc ..).symm

theorem State.hired_allAlarms (key : SessionKey) (state : State) :
    (state.hired key).allAlarms = state.allAlarms := by
  simp [State.allAlarms, State.hired, State.newWorker]

theorem State.mem_hired {key : SessionKey} {worker : Worker}
    (member : worker ∈ (state.hired key).workers) :
    worker ∈ state.workers ∨ worker = state.newWorker key :=
  (List.mem_append.mp member).imp_right List.mem_singleton.mp

theorem Numbered.hires (numbered : Numbered state) (key : SessionKey) :
    Numbered (state.hired key) := by
  have tokens := state.hired_tokens key
  constructor
  case ids =>
    refine (List.map_append ..).symm ▸ List.nodup_append.mpr
      ⟨numbered.ids, List.nodup_singleton _, fun id old other new same => ?_⟩
    obtain ⟨worker, member, rfl⟩ := List.mem_map.mp old
    have := numbered.old worker member
    rw [same, List.mem_singleton.mp new] at this
    exact Nat.lt_irrefl _ this
  case old =>
    intro worker member
    rcases State.mem_hired member with old | rfl
    · exact Nat.lt_succ_of_lt (numbered.old worker old)
    · exact Nat.lt_succ_self _
  case tickets =>
    intro id waits
    rw [tokens] at waits
    rcases List.mem_append.mp waits with old | new
    · exact Nat.lt_succ_of_lt (numbered.tickets id old)
    · cases List.mem_singleton.mp new
      exact Nat.lt_succ_self _
  case bells =>
    intro serial rings
    rw [tokens] at rings
    refine Nat.lt_succ_of_lt (numbered.bells serial ?_)
    exact (List.mem_append.mp rings).resolve_right (by simp)
  case earlier =>
    intro alarm member
    rw [State.hired_allAlarms] at member
    exact Nat.lt_succ_of_lt (numbered.earlier alarm member)
  case rings =>
    intro alarm member
    rw [State.hired_allAlarms] at member
    rw [tokens, List.count_append, List.count_eq_zero.mpr
      (show Token.bell alarm.serial ∉ [Token.worker state.serial] by simp)]
    exact numbered.rings alarm member
  case alone =>
    intro one inside two inside' alarm set another set'
    rcases State.mem_hired inside with old | rfl
    · rcases State.mem_hired inside' with old' | rfl
      · exact numbered.alone one old two old' alarm set another set'
      · cases set'
    · cases set
  case apart =>
    intro worker member alarm set
    rcases State.mem_hired member with old | rfl
    · exact numbered.apart worker old alarm set
    · cases set

theorem Numbered.serials (numbered : Numbered state) :
    (state.allAlarms.map Alarm.serial).Nodup := by
  rw [State.allAlarms, List.map_append]
  refine List.nodup_append.mpr ⟨?_, ?_, ?_⟩
  · cases state.alarm <;> simp
  · have ids := List.pairwise_map.mp numbered.ids
    refine List.pairwise_map.mpr (List.pairwise_filterMap.mpr (ids.imp_of_mem ?_))
    intro one two inside inside' differs alarm set another set' same
    exact differs (numbered.alone one inside two inside' alarm set another set' same)
  · intro serial own other others same
    obtain ⟨alarm, set, rfl⟩ := List.mem_map.mp own
    obtain ⟨another, inside, rfl⟩ := List.mem_map.mp others
    obtain ⟨worker, member, set'⟩ := List.mem_filterMap.mp inside
    exact numbered.apart worker member another set' alarm (Option.mem_toList.mp set) same

/-! ### Alarms go off -/

def State.ringing (state : State) : List Nat :=
  ((state.alarms.filter (state.clock.isDue ·.due)).mergeSort fun a b =>
    a.due < b.due || (a.due = b.due && a.serial ≤ b.serial)).map (·.serial)

theorem State.ring_eq (state : State) : state.ring = { state with
    upcoming := state.upcoming ++ state.ringing.map .bell
    alarm := state.alarm.map (State.Alarm.rung state.ringing)
    workers := state.workers.map fun worker =>
      { worker with alarm := worker.alarm.map (State.Alarm.rung state.ringing) } } := rfl

def Worker.rung (serials : List Nat) (worker : Worker) : Worker :=
  { worker with alarm := worker.alarm.map (State.Alarm.rung serials) }

theorem Numbered.nodup_ringing (numbered : Numbered state) : state.ringing.Nodup := by
  have sorted := List.mergeSort_perm (state.alarms.filter (state.clock.isDue ·.due)) fun a b =>
    a.due < b.due || (a.due = b.due && a.serial ≤ b.serial)
  refine ((sorted.map Alarm.serial).nodup_iff).mpr (numbered.serials.sublist ?_)
  exact (List.filter_sublist.trans List.filter_sublist).map _

theorem Numbered.mem_ringing (numbered : Numbered state) (member : alarm ∈ state.allAlarms) :
    alarm.serial ∈ state.ringing ↔ alarm.ringing = false ∧ state.clock.isDue alarm.due = true := by
  unfold State.ringing
  rw [List.mem_map]
  constructor
  · rintro ⟨other, rings, same⟩
    rw [List.mem_mergeSort, List.mem_filter, State.alarms, List.mem_filter] at rings
    rw [List.inj_on_of_nodup_map numbered.serials rings.1.1 member same] at rings
    exact ⟨by simpa using rings.1.2, rings.2⟩
  · rintro ⟨silent, due⟩
    refine ⟨alarm, ?_, rfl⟩
    rw [List.mem_mergeSort, List.mem_filter, State.alarms, List.mem_filter]
    exact ⟨⟨member, by simp [silent]⟩, due⟩

theorem rung_serial (serials : List Nat) (alarm : Alarm) :
    (State.Alarm.rung serials alarm).serial = alarm.serial ∧
      (State.Alarm.rung serials alarm).due = alarm.due := by
  unfold State.Alarm.rung
  split <;> exact ⟨rfl, rfl⟩

theorem mem_map_rung {serials : List Nat} {before : Option Alarm}
    (set : alarm ∈ before.map (State.Alarm.rung serials)) :
    ∃ old ∈ before, State.Alarm.rung serials old = alarm := by
  obtain ⟨old, member, same⟩ := Option.map_eq_some_iff.mp set
  exact ⟨old, member, same⟩

theorem State.ring_tokens (state : State) :
    state.ring.tokens = state.tokens ++ state.ringing.map .bell :=
  (List.append_assoc ..).symm

theorem State.ring_allAlarms (state : State) :
    state.ring.allAlarms = state.allAlarms.map (State.Alarm.rung state.ringing) := by
  rw [State.allAlarms, State.allAlarms, State.ring_eq, List.map_append, List.filterMap_map,
    List.map_filterMap]
  congr 1
  cases state.alarm <;> rfl

theorem State.count_ring {token : Token} (state : State) (kind : ∀ serial, token ≠ .bell serial) :
    state.ring.tokens.count token = state.tokens.count token := by
  have silent : token ∉ state.ringing.map Token.bell := by
    intro member
    obtain ⟨serial, -, same⟩ := List.mem_map.mp member
    exact kind serial same.symm
  rw [State.ring_tokens, List.count_append, List.count_eq_zero.mpr silent, Nat.add_zero]

theorem Numbered.count_bell (numbered : Numbered state) (member : alarm ∈ state.allAlarms) :
    state.ring.tokens.count (.bell alarm.serial) =
      (State.Alarm.rung state.ringing alarm).ringing.toNat := by
  have rings := numbered.mem_ringing member
  have bells : (state.ringing.map Token.bell).count (.bell alarm.serial) =
      state.ringing.count alarm.serial :=
    List.count_map_of_injective state.ringing Token.bell (fun _ _ => Token.bell.inj) alarm.serial
  rw [State.ring_tokens, List.count_append, numbered.rings alarm member, bells]
  unfold State.Alarm.rung
  by_cases inside : alarm.serial ∈ state.ringing
  · rw [if_pos (List.contains_iff_mem.mpr inside), (rings.mp inside).1,
      List.count_eq_one_of_mem numbered.nodup_ringing inside]
    rfl
  · rw [if_neg (mt List.contains_iff_mem.mp inside), List.count_eq_zero.mpr inside, Nat.add_zero]

theorem Numbered.ring (numbered : Numbered state) : Numbered state.ring := by
  have mem {worker : Worker} (member : worker ∈ state.ring.workers) :
      ∃ old ∈ state.workers, old.rung state.ringing = worker := List.mem_map.mp member
  have set {worker : Worker} {alarm : Alarm}
      (set : alarm ∈ (worker.rung state.ringing).alarm) :
      ∃ old ∈ worker.alarm, State.Alarm.rung state.ringing old = alarm := mem_map_rung set
  have ids : state.ring.workers.map (·.id) = state.workers.map (·.id) := by
    rw [State.ring_eq, List.map_map]
    rfl
  have rung {alarm : Alarm} (member : alarm ∈ state.ring.allAlarms) :
      ∃ old ∈ state.allAlarms, State.Alarm.rung state.ringing old = alarm := by
    rw [State.ring_allAlarms] at member
    exact List.mem_map.mp member
  constructor
  case ids => exact ids ▸ numbered.ids
  case old =>
    intro worker member
    obtain ⟨old, inside, rfl⟩ := mem member
    exact numbered.old old inside
  case tickets =>
    intro id waits
    rw [State.ring_tokens] at waits
    exact numbered.tickets id ((List.mem_append.mp waits).resolve_right (by simp))
  case bells =>
    intro serial rings
    rw [State.ring_tokens] at rings
    rcases List.mem_append.mp rings with old | new
    · exact numbered.bells serial old
    · obtain ⟨_, inside, same⟩ := List.mem_map.mp new
      cases same
      obtain ⟨alarm, due, rfl⟩ := List.mem_map.mp inside
      rw [List.mem_mergeSort, List.mem_filter, State.alarms, List.mem_filter] at due
      exact numbered.earlier alarm due.1.1
  case earlier =>
    intro alarm member
    obtain ⟨old, inside, rfl⟩ := rung member
    rw [(rung_serial _ _).1]
    exact numbered.earlier old inside
  case rings =>
    intro alarm member
    obtain ⟨old, inside, rfl⟩ := rung member
    rw [(rung_serial _ _).1]
    exact numbered.count_bell inside
  case alone =>
    intro one inside two inside' alarm set' another set'' same
    obtain ⟨old, member, rfl⟩ := mem inside
    obtain ⟨old', member', rfl⟩ := mem inside'
    obtain ⟨before, own, rfl⟩ := set set'
    obtain ⟨before', own', rfl⟩ := set set''
    rw [(rung_serial _ _).1, (rung_serial _ _).1] at same
    exact numbered.alone old member old' member' before own before' own' same
  case apart =>
    intro worker member alarm set' own set'' same
    obtain ⟨old, inside, rfl⟩ := mem member
    obtain ⟨before, own', rfl⟩ := set set'
    obtain ⟨script, own'', rfl⟩ := mem_map_rung set''
    rw [(rung_serial _ _).1, (rung_serial _ _).1] at same
    exact numbered.apart old inside before own' script own'' same

/-! ### Time passes -/

theorem earliest_none {alarms : List Alarm} (none : State.earliest? alarms = none) :
    alarms = [] := by
  cases alarms with
  | nil => rfl
  | cons alarm rest =>
    cases others : State.earliest? rest <;> rw [State.earliest?, others] at none <;> cases none

theorem earliest_some {alarms : List Alarm} {due : Rat}
    (found : State.earliest? alarms = some due) :
    (∃ alarm ∈ alarms, alarm.due = due) ∧ ∀ alarm ∈ alarms, due ≤ alarm.due := by
  induction alarms generalizing due with
  | nil => cases found
  | cons alarm rest ih =>
    cases others : State.earliest? rest with
    | some later =>
      rw [State.earliest?, others] at found
      obtain ⟨⟨other, member, same⟩, least⟩ := ih others
      cases found
      by_cases sooner : alarm.due ≤ later
      · rw [if_pos sooner]
        refine ⟨⟨alarm, List.mem_cons_self, rfl⟩, fun another inside => ?_⟩
        rcases List.mem_cons.mp inside with rfl | inside
        · exact le_refl _
        · exact sooner.trans (least another inside)
      · rw [if_neg sooner]
        refine ⟨⟨other, List.mem_cons_of_mem _ member, same⟩, fun another inside => ?_⟩
        rcases List.mem_cons.mp inside with rfl | inside
        · exact le_of_not_ge sooner
        · exact least another inside
    | none =>
      rw [State.earliest?, others] at found
      cases found
      rw [earliest_none others]
      simp

theorem passTo_spec (due : Rat) (clock : Clock) :
    (clock.passTo due).precision = clock.precision ∧
      (clock.passTo due).resolution = clock.resolution ∧ clock.now ≤ (clock.passTo due).now ∧
      (clock.now ≤ due → (clock.passTo due).now ≤ due) ∧ (clock.passTo due).isDue due = true := by
  unfold Clock.passTo
  by_cases soon : clock.isDue due = true
  · rw [if_pos soon]
    exact ⟨rfl, rfl, le_refl _, id, soon⟩
  · rw [if_neg soon]
    unfold Clock.isDue at soon ⊢
    rw [Bool.or_eq_true, decide_eq_true_eq] at soon
    refine ⟨rfl, rfl, le_of_not_ge fun past => soon (Or.inl past), fun _ => le_refl _, ?_⟩
    rw [Bool.or_eq_true, decide_eq_true_eq]
    exact Or.inl (le_refl _)

theorem State.passTime_eq (state : State) : ∃ clock, state.passTime = { state with clock } ∧
    clock.resolution = state.clock.resolution := by
  unfold State.passTime
  split
  · exact ⟨_, rfl, (passTo_spec _ _).2.1⟩
  · exact ⟨state.clock, rfl, rfl⟩

theorem State.passTime_rings {state : State} (some : state.alarms ≠ []) :
    state.passTime.ringing ≠ [] := by
  unfold State.passTime
  cases found : State.earliest? state.alarms with
  | none => exact absurd (earliest_none found) some
  | some due =>
    obtain ⟨⟨first, member, rfl⟩, -⟩ := earliest_some found
    obtain ⟨-, -, -, -, due⟩ := passTo_spec first.due state.clock
    refine List.ne_nil_of_mem (?_ : first.serial ∈ _)
    refine List.mem_map.mpr ⟨first, ?_, rfl⟩
    rw [List.mem_mergeSort, List.mem_filter]
    exact ⟨member, due⟩

end Parley.Dispatcher
