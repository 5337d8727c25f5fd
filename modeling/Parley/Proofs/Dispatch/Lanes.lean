import Mathlib.Algebra.Order.Ring.Unbundled.Rat
import Mathlib.Data.List.GetD
import Mathlib.Order.Lattice
import Mathlib.Tactic.Linarith
import Parley.Dispatch.Dispatcher

/-!
Lanes: the jobs of a session in the order in which they were submitted. Those that have ended come
first, each run as by a server that takes one job after the other; those that are pending follow.
-/

namespace Parley.Dispatcher

/-- When a job that was called for can start in a session that is free since some time. -/
def readyAt (free : Option Rat) (call : Rat) : Rat := (free.map (max call)).getD call

theorem readyAt_now {free : Option Rat} {now : Rat} (past : ∀ ended ∈ free, ended ≤ now) :
    readyAt free now = now := by
  cases free with
  | none => rfl
  | some ended => exact max_eq_left (past ended rfl)

theorem readyAt_ended {call now : Rat} (called : call ≤ now) : readyAt (some now) call = now :=
  max_eq_right called

/-- The jobs of a session, in the order in which they were submitted. -/
def jobsOf (assignments : List Assignment) (key : SessionKey) : List Nat :=
  (List.range assignments.length).filter fun job =>
    (assignments[job]?).any fun own => decide (own.key = key)

def callOf (calls : List Rat) (job : Nat) : Rat := calls.getD job 0

def startOf (assignments : List Assignment) (job : Nat) : Option Rat :=
  (assignments[job]?).bind Assignment.startedAt

/-- A job takes its time, up to how exactly alarms are kept. -/
def Lasts (resolution : Rat) (duration : Option Rat) (start ended : Rat) : Prop :=
  start + duration.getD 0 - resolution ≤ ended ∧ ended ≤ start + duration.getD 0

/-- A session that was free since some time has run a job, until some time. -/
def Ran (resolution : Rat) (assignments : List Assignment) (calls : List Rat) (free : Option Rat)
    (job : Nat) (ended : Rat) : Prop :=
  ∃ own, assignments[job]? = some own ∧
    own.startedAt = some (readyAt free (callOf calls job)) ∧ own.endedAt = some ended ∧
    readyAt free (callOf calls job) ≤ ended ∧
    Lasts resolution own.duration (readyAt free (callOf calls job)) ended ∧
    own.outcome = some (State.outcomeOf job own)

/-- Jobs that were run one after the other, from when the session was free until it is again. -/
inductive Serves (ran : Option Rat → Nat → Rat → Prop) : Option Rat → List Nat → Option Rat → Prop where
  | nil (free : Option Rat) : Serves ran free [] free
  | cons {free : Option Rat} {job : Nat} {ended : Rat} {rest : List Nat} {last : Option Rat}
    (first : ran free job ended) (later : Serves ran (some ended) rest last) :
    Serves ran free (job :: rest) last

namespace Serves

variable {ran ran' : Option Rat → Nat → Rat → Prop} {free middle last : Option Rat}
  {jobs more : List Nat}

theorem append (first : Serves ran free jobs middle) (second : Serves ran middle more last) :
    Serves ran free (jobs ++ more) last := by
  induction first with
  | nil => exact second
  | cons ran _ ih => exact .cons ran (ih second)

theorem snoc {job : Nat} {ended : Rat} (served : Serves ran free jobs middle)
    (next : ran middle job ended) : Serves ran free (jobs ++ [job]) (some ended) :=
  served.append (.cons next (.nil _))

theorem split (served : Serves ran free (jobs ++ more) last) :
    ∃ middle, Serves ran free jobs middle ∧ Serves ran middle more last := by
  induction jobs generalizing free with
  | nil => exact ⟨free, .nil free, served⟩
  | cons job rest ih =>
    cases served with
    | cons first later =>
      obtain ⟨middle, before, after⟩ := ih later
      exact ⟨middle, .cons first before, after⟩

theorem congr (served : Serves ran free jobs last)
    (same : ∀ free, ∀ job ∈ jobs, ∀ ended, ran free job ended → ran' free job ended) :
    Serves ran' free jobs last := by
  induction served with
  | nil free => exact .nil free
  | cons first later ih =>
    exact .cons (same _ _ List.mem_cons_self _ first)
      (ih fun free job member => same free job (List.mem_cons_of_mem _ member))

end Serves

/-- How a session stands between its jobs: none of those that are pending has started, and if there
is one it can start now. -/
structure Idle (now : Rat) (assignments : List Assignment) (calls : List Rat) (free : Option Rat)
    (pending : List Nat) : Prop where
  unstarted : ∀ job ∈ pending, startOf assignments job = none
  ready : ∀ job ∈ pending.head?, now = readyAt free (callOf calls job)

/-- How a session stands in a job: it started when it could, and none of the others has started. -/
structure Busy (now : Rat) (assignments : List Assignment) (calls : List Rat) (free : Option Rat)
    (pending : List Nat) : Prop where
  started : ∃ job ∈ pending.head?, startOf assignments job = some (readyAt free (callOf calls job)) ∧
    readyAt free (callOf calls job) ≤ now
  unstarted : ∀ job ∈ pending.tail, startOf assignments job = none

/-- The jobs of a session at some time: those that were served, and those that are pending. -/
structure Lane (resolution now : Rat) (assignments : List Assignment) (calls : List Rat)
    (key : SessionKey) (running : Bool) (pending served : List Nat) (free : Option Rat) : Prop where
  jobs : jobsOf assignments key = served ++ pending
  serves : Serves (Ran resolution assignments calls) none served free
  past : ∀ ended ∈ free, ended ≤ now
  unended : ∀ job ∈ pending, ∃ own, assignments[job]? = some own ∧ own.endedAt = none ∧
    own.outcome = none
  idle : running = false → Idle now assignments calls free pending
  busy : running = true → Busy now assignments calls free pending

/-! ### The table of jobs -/

theorem mem_jobsOf {assignments : List Assignment} {key : SessionKey} {job : Nat} :
    job ∈ jobsOf assignments key ↔ ∃ own, assignments[job]? = some own ∧ own.key = key := by
  rw [jobsOf, List.mem_filter, List.mem_range, Option.any_eq_true]
  simp only [decide_eq_true_eq]
  constructor
  · exact fun h => h.2
  · rintro ⟨own, found, same⟩
    exact ⟨(List.getElem?_eq_some_iff.mp found).1, own, found, same⟩

theorem nodup_jobsOf (assignments : List Assignment) (key : SessionKey) :
    (jobsOf assignments key).Nodup := List.nodup_range.filter _

theorem jobsOf_set {assignments : List Assignment} {job : Nat} {own changed : Assignment}
    (found : assignments[job]? = some own) (keeps : changed.key = own.key) (key : SessionKey) :
    jobsOf (assignments.set job changed) key = jobsOf assignments key := by
  rw [jobsOf, jobsOf, List.length_set]
  apply List.filter_congr
  intro other _
  by_cases same : job = other
  · subst same
    rw [List.getElem?_set_self (List.getElem?_eq_some_iff.mp found).1, found]
    simp [keeps]
  · rw [List.getElem?_set_ne same]

theorem jobsOf_append (assignments : List Assignment) (own : Assignment) (key : SessionKey) :
    jobsOf (assignments ++ [own]) key =
      jobsOf assignments key ++ if own.key = key then [assignments.length] else [] := by
  rw [jobsOf, jobsOf, List.length_append, List.length_singleton, List.range_succ, List.filter_append]
  congr 1
  · apply List.filter_congr
    intro job inside
    rw [List.getElem?_append_left (List.mem_range.mp inside)]
  · by_cases same : own.key = key <;> simp [same]

theorem callOf_append {calls : List Rat} {job : Nat} (inside : job < calls.length) (call : Rat) :
    callOf (calls ++ [call]) job = callOf calls job := by
  rw [callOf, callOf, List.getD_append _ _ _ _ inside]

theorem callOf_last (calls : List Rat) (call : Rat) : callOf (calls ++ [call]) calls.length = call := by
  rw [callOf, List.getD_append_right _ _ _ _ (Nat.le_refl _), Nat.sub_self]
  rfl

/-- The times at which the jobs were called for: one for each, and none later than now. -/
structure Called (now : Rat) (assignments : List Assignment) (calls : List Rat) : Prop where
  length : calls.length = assignments.length
  past : ∀ call ∈ calls, call ≤ now

theorem Called.le {now : Rat} {assignments : List Assignment} {calls : List Rat}
    (called : Called now assignments calls) {job : Nat} {own : Assignment}
    (found : assignments[job]? = some own) : callOf calls job ≤ now := by
  have inside : job < calls.length := by
    rw [called.length]
    exact (List.getElem?_eq_some_iff.mp found).1
  rw [callOf, List.getD_eq_getElem _ _ inside]
  exact called.past _ (List.getElem_mem inside)

theorem Ran.congr {resolution : Rat} {assignments changed : List Assignment} {calls more : List Rat}
    {free : Option Rat} {job : Nat} {ended : Rat}
    (ran : Ran resolution assignments calls free job ended)
    (same : changed[job]? = assignments[job]?) (call : callOf more job = callOf calls job) :
    Ran resolution changed more free job ended := by
  obtain ⟨own, found, rest⟩ := ran
  refine ⟨own, same.trans found, ?_⟩
  rw [call]
  exact rest

theorem startOf_congr {assignments changed : List Assignment} {job : Nat}
    (same : changed[job]? = assignments[job]?) : startOf changed job = startOf assignments job := by
  rw [startOf, same, startOf]

/-! ### What happens in a lane -/

namespace Lane

variable {resolution now : Rat} {assignments : List Assignment} {calls : List Rat} {key : SessionKey}
  {running : Bool} {pending served : List Nat} {free : Option Rat}

theorem mem_pending
    (lane : Lane resolution now assignments calls key running pending served free) {job : Nat}
    (member : job ∈ pending) : ∃ own, assignments[job]? = some own ∧ own.key = key := by
  apply mem_jobsOf.mp
  rw [lane.jobs]
  exact List.mem_append_right _ member

theorem mem_served
    (lane : Lane resolution now assignments calls key running pending served free) {job : Nat}
    (member : job ∈ served) : ∃ own, assignments[job]? = some own ∧ own.key = key := by
  apply mem_jobsOf.mp
  rw [lane.jobs]
  exact List.mem_append_left _ member

theorem nodup (lane : Lane resolution now assignments calls key running pending served free) :
    (served ++ pending).Nodup := lane.jobs ▸ nodup_jobsOf assignments key

theorem other (lane : Lane resolution now assignments calls key running pending served free)
    {job : Nat} {own changed : Assignment} (found : assignments[job]? = some own)
    (keeps : changed.key = own.key) (stranger : own.key ≠ key) :
    Lane resolution now (assignments.set job changed) calls key running pending served free := by
  have same (other : Nat) (there : ∃ own, assignments[other]? = some own ∧ own.key = key) :
      (assignments.set job changed)[other]? = assignments[other]? := by
    obtain ⟨found', there, owned⟩ := there
    refine List.getElem?_set_ne fun equal => stranger ?_
    rw [equal, there] at found
    exact Option.some.inj found ▸ owned
  have starts (other : Nat) (member : other ∈ pending) :
      startOf (assignments.set job changed) other = startOf assignments other :=
    startOf_congr (same other (lane.mem_pending member))
  constructor
  · rw [jobsOf_set found keeps, lane.jobs]
  · exact lane.serves.congr fun free other member ended ran =>
      ran.congr (same other (lane.mem_served member)) rfl
  · exact lane.past
  · intro other member
    rw [same other (lane.mem_pending member)]
    exact lane.unended other member
  · intro still
    have idle := lane.idle still
    exact ⟨fun other member => (starts other member).trans (idle.unstarted other member), idle.ready⟩
  · intro runs
    have busy := lane.busy runs
    obtain ⟨first, head, start, past⟩ := busy.started
    have member := List.mem_of_mem_head? head
    refine ⟨⟨first, head, (starts first member).trans start, past⟩, ?_⟩
    exact fun other member =>
      (starts other (List.mem_of_mem_tail member)).trans (busy.unstarted other member)

theorem start {job : Nat} {rest : List Nat}
    (lane : Lane resolution now assignments calls key false (job :: rest) served free)
    {own : Assignment} (found : assignments[job]? = some own) :
    Lane resolution now (assignments.set job { own with startedAt := some now }) calls key true
      (job :: rest) served free := by
  have apart := List.nodup_append.mp lane.nodup
  have inside := (List.getElem?_eq_some_iff.mp found).1
  have idle := lane.idle rfl
  have ready := idle.ready job rfl
  constructor
  · exact Eq.trans (jobsOf_set found (by rfl) key) lane.jobs
  · refine lane.serves.congr fun free other member ended ran => ran.congr ?_ rfl
    exact List.getElem?_set_ne fun equal =>
      apart.2.2 other member job List.mem_cons_self equal.symm
  · exact lane.past
  · intro other member
    obtain ⟨own', found', unended⟩ := lane.unended other member
    by_cases equal : job = other
    · subst equal
      rw [found] at found'
      cases found'
      exact ⟨_, List.getElem?_set_self inside, unended⟩
    · exact ⟨own', (List.getElem?_set_ne equal).trans found', unended⟩
  · nofun
  · intro _
    refine ⟨⟨job, rfl, ?_, ready.ge⟩, fun other member => ?_⟩
    · rw [startOf, List.getElem?_set_self inside, ← ready]
      rfl
    · have differs : job ≠ other := fun equal =>
        (List.nodup_cons.mp apart.2.1).1 (equal ▸ member)
      rw [startOf_congr (List.getElem?_set_ne differs)]
      exact idle.unstarted other (List.mem_cons_of_mem _ member)

theorem finish {job : Nat} {rest : List Nat}
    (lane : Lane resolution now assignments calls key true (job :: rest) served free)
    (called : Called now assignments calls) {own : Assignment} (found : assignments[job]? = some own)
    {started : Rat} (start : own.startedAt = some started)
    (lasts : Lasts resolution own.duration started now) {ended : Assignment}
    (keeps : ended.key = own.key ∧ ended.duration = own.duration ∧ ended.startedAt = own.startedAt)
    (endedAt : ended.endedAt = some now) (outcome : ended.outcome = some (State.outcomeOf job ended)) :
    Lane resolution now (assignments.set job ended) calls key false rest (served ++ [job])
      (some now) := by
  have apart := List.nodup_append.mp lane.nodup
  have fresh := (List.nodup_cons.mp apart.2.1).1
  have inside := (List.getElem?_eq_some_iff.mp found).1
  have same (other : Nat) (differs : job ≠ other) :
      (assignments.set job ended)[other]? = assignments[other]? := List.getElem?_set_ne differs
  obtain ⟨⟨first, head, startedAt, past⟩, unstarted⟩ := lane.busy rfl
  cases head
  rw [startOf, found, Option.bind_some, start] at startedAt
  cases startedAt
  constructor
  · rw [jobsOf_set found keeps.1, lane.jobs, List.append_assoc, List.singleton_append]
  · refine (lane.serves.congr fun free other member _ ran => ran.congr (same other ?_) rfl).snoc ?_
    · exact fun equal => apart.2.2 other member job List.mem_cons_self equal.symm
    · exact ⟨ended, List.getElem?_set_self inside, keeps.2.2.trans start, endedAt, past,
        keeps.2.1 ▸ lasts, outcome⟩
  · exact fun ended same => (Option.some.inj same).ge
  · intro other member
    rw [same other fun equal => fresh (equal ▸ member)]
    exact lane.unended other (List.mem_cons_of_mem _ member)
  · intro _
    refine ⟨fun other member => ?_, fun other head => ?_⟩
    · rw [startOf_congr (same other fun equal => fresh (equal ▸ member))]
      exact unstarted other member
    · obtain ⟨next, there, _⟩ :=
        lane.mem_pending (List.mem_cons_of_mem job (List.mem_of_mem_head? head))
      exact (readyAt_ended (called.le there)).symm
  · nofun

theorem same_of_submit {own : Assignment} {call : Rat} (called : Called now assignments calls)
    {job : Nat} (there : ∃ own, assignments[job]? = some own ∧ own.key = key) :
    (assignments ++ [own])[job]? = assignments[job]? ∧
      callOf (calls ++ [call]) job = callOf calls job := by
  obtain ⟨_, found, _⟩ := there
  have inside := (List.getElem?_eq_some_iff.mp found).1
  exact ⟨List.getElem?_append_left inside, callOf_append (called.length ▸ inside) call⟩

theorem submit_other (lane : Lane resolution now assignments calls key running pending served free)
    (called : Called now assignments calls) {own : Assignment} (stranger : own.key ≠ key) :
    Lane resolution now (assignments ++ [own]) (calls ++ [now]) key running pending served free := by
  have same (job : Nat) (member : job ∈ pending) :
      (assignments ++ [own])[job]? = assignments[job]? ∧
        callOf (calls ++ [now]) job = callOf calls job :=
    same_of_submit called (lane.mem_pending member)
  have starts (job : Nat) (member : job ∈ pending) := startOf_congr (same job member).1
  constructor
  · rw [jobsOf_append, if_neg stranger, lane.jobs, List.append_nil]
  · exact lane.serves.congr fun free job member ended ran =>
      have kept := same_of_submit called (lane.mem_served member)
      ran.congr kept.1 kept.2
  · exact lane.past
  · intro job member
    rw [(same job member).1]
    exact lane.unended job member
  · intro still
    have idle := lane.idle still
    refine ⟨fun job member => (starts job member).trans (idle.unstarted job member), ?_⟩
    intro job head
    rw [(same job (List.mem_of_mem_head? head)).2]
    exact idle.ready job head
  · intro runs
    obtain ⟨⟨first, head, start, past⟩, unstarted⟩ := lane.busy runs
    have member := List.mem_of_mem_head? head
    refine ⟨⟨first, head, ?_, ?_⟩, fun job member => ?_⟩
    · rw [starts first member, (same first member).2, start]
    · rw [(same first member).2]
      exact past
    · rw [starts job (List.mem_of_mem_tail member)]
      exact unstarted job member

theorem submit (lane : Lane resolution now assignments calls key running pending served free)
    (called : Called now assignments calls) {own : Assignment} (owned : own.key = key)
    (unstarted : own.startedAt = none) (unended : own.endedAt = none ∧ own.outcome = none) :
    Lane resolution now (assignments ++ [own]) (calls ++ [now]) key running
      (pending ++ [assignments.length]) served free := by
  have same (job : Nat) (member : job ∈ pending) :
      (assignments ++ [own])[job]? = assignments[job]? ∧
        callOf (calls ++ [now]) job = callOf calls job :=
    same_of_submit called (lane.mem_pending member)
  have last : (assignments ++ [own])[assignments.length]? = some own := by simp
  have starts (rest : List Nat) (still : ∀ job ∈ rest, startOf assignments job = none)
      (inside : ∀ job ∈ rest, job ∈ pending) :
      ∀ job ∈ rest ++ [assignments.length], startOf (assignments ++ [own]) job = none := by
    intro job member
    rcases List.mem_append.mp member with old | new
    · rw [startOf_congr (same job (inside job old)).1]
      exact still job old
    · rw [List.mem_singleton.mp new, startOf, last]
      exact unstarted
  constructor
  · rw [jobsOf_append, if_pos owned, lane.jobs, List.append_assoc]
  · exact lane.serves.congr fun free job member ended ran =>
      have kept := same_of_submit called (lane.mem_served member)
      ran.congr kept.1 kept.2
  · exact lane.past
  · intro job member
    rcases List.mem_append.mp member with old | new
    · rw [(same job old).1]
      exact lane.unended job old
    · rw [List.mem_singleton.mp new]
      exact ⟨own, last, unended⟩
  · intro still
    have idle := lane.idle still
    refine ⟨starts pending idle.unstarted fun _ member => member, fun job head => ?_⟩
    cases pending with
    | nil =>
      cases head
      rw [← called.length, callOf_last]
      exact (readyAt_now lane.past).symm
    | cons first rest =>
      cases head
      rw [(same job List.mem_cons_self).2]
      exact idle.ready job rfl
  · intro runs
    obtain ⟨⟨first, head, start, past⟩, still⟩ := lane.busy runs
    cases pending with
    | nil => cases head
    | cons job rest =>
      cases head
      have kept := same first List.mem_cons_self
      refine ⟨⟨first, rfl, ?_, ?_⟩, starts rest still fun _ => List.mem_cons_of_mem first⟩
      · rw [startOf_congr kept.1, kept.2, start]
      · rw [kept.2]
        exact past

theorem pass (lane : Lane resolution now assignments calls key running pending served free)
    {later : Rat} (passes : now ≤ later) (still : running = true ∨ pending = []) :
    Lane resolution later assignments calls key running pending served free where
  __ := lane
  past ended same := (lane.past ended same).trans passes
  idle rests := by
    rcases still with runs | none
    · rw [rests] at runs
      cases runs
    · subst none
      exact ⟨nofun, nofun⟩
  busy runs := by
    have busy := lane.busy runs
    obtain ⟨first, head, start, past⟩ := busy.started
    exact ⟨⟨first, head, start, past.trans passes⟩, busy.unstarted⟩

end Lane

end Parley.Dispatcher
