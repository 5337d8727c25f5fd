import Mathlib.Algebra.Order.Ring.Unbundled.Rat
import Mathlib.Data.List.Nodup
import Parley.Dispatch.Dispatcher

/-!
What turns are made of: some of those who are awake have their turns and others are woken, workers and jobs
are changed, word is sent when all jobs have ended, and whoever waits for room is woken.
-/

namespace Parley.Dispatcher

/-! ### Who is awake -/

/-- All who are awake, in the order of their turns. -/
def State.tokens (state : State) : List Token := state.awake ++ state.upcoming

theorem State.tokens_eq {state : State} {token : Token} {awake : List Token}
    (first : state.awake = token :: awake) :
    state.tokens = [token] ++ (awake ++ state.upcoming) := by
  rw [State.tokens, first]
  rfl

/-- Some had their turns, and others were woken; this one is none of them. -/
def Unmoved (token : Token) (tokens after : List Token) : Prop :=
  ∃ gone rest woken, tokens = gone ++ rest ∧ after = rest ++ woken ∧ token ∉ gone ∧ token ∉ woken

theorem sublist_of_gone {token other : Token} {gone rest : List Token}
    (order : [token, other].Sublist (gone ++ rest)) (waits : token ∉ gone) (woken : List Token) :
    [token, other].Sublist (rest ++ woken) := by
  induction gone with
  | nil => exact order.trans (List.sublist_append_left rest woken)
  | cons first gone ih =>
    cases order with
    | cons _ order => exact ih order fun member => waits (List.mem_cons_of_mem _ member)
    | cons_cons => exact absurd List.mem_cons_self waits

theorem not_first_of_sublist {token other : Token} {rest : List Token}
    (order : [token, other].Sublist (other :: rest)) (differs : token ≠ other)
    (once : (other :: rest).count other = 1) : False := by
  cases order with
  | cons _ order =>
    have member : other ∈ rest := order.mem (List.mem_cons_of_mem _ List.mem_cons_self)
    rw [List.count_cons_self] at once
    have := List.count_pos_iff.mpr member
    omega
  | cons_cons => exact differs rfl

namespace Unmoved

variable {token other : Token} {tokens after : List Token}

theorem count (unmoved : Unmoved token tokens after) : after.count token = tokens.count token := by
  obtain ⟨gone, rest, woken, rfl, rfl, old, new⟩ := unmoved
  rw [List.count_append, List.count_append, List.count_eq_zero_of_not_mem old,
    List.count_eq_zero_of_not_mem new, Nat.add_comm]

theorem mem_iff (unmoved : Unmoved token tokens after) : token ∈ after ↔ token ∈ tokens := by
  rw [← List.count_pos_iff, ← List.count_pos_iff, unmoved.count]

theorem sublist (unmoved : Unmoved token tokens after) (order : [token, other].Sublist tokens) :
    [token, other].Sublist after := by
  obtain ⟨gone, rest, woken, rfl, rfl, old, -⟩ := unmoved
  exact sublist_of_gone order old woken

end Unmoved

variable {state : State} {worker : Worker}

/-! ### Workers and jobs -/

theorem workers_changeWorker (ids : (state.workers.map (·.id)).Nodup)
    (member : worker ∈ state.workers) (change : Worker → Worker) :
    (state.workers.map fun other => if other.id = worker.id then change other else other) =
      state.workers.map fun other => if other.id = worker.id then change worker else other := by
  apply List.map_congr_left
  intro other inside
  by_cases same : other.id = worker.id
  · rw [if_pos same, if_pos same, List.inj_on_of_nodup_map ids inside member same]
  · rw [if_neg same, if_neg same]

theorem workers_unchanged (ids : (state.workers.map (·.id)).Nodup)
    (member : worker ∈ state.workers) :
    (state.workers.map fun other => if other.id = worker.id then worker else other) =
      state.workers := by
  rw [← workers_changeWorker ids member fun other => other]
  simp

theorem workers_changed_again {id : Nat} {held : Worker} (own : held.id = id)
    (workers : List Worker) (change : Worker → Worker) :
    ((workers.map fun other => if other.id = id then held else other).map fun other =>
        if other.id = held.id then change other else other) =
      workers.map fun other => if other.id = id then change held else other := by
  rw [List.map_map]
  apply List.map_congr_left
  intro other _
  by_cases same : other.id = id <;> simp [same, own]

def State.newWorker (key : SessionKey) (state : State) : Worker :=
  { id := state.serial, key, mailbox := { capacity := state.limits.mailboxSize } }

def State.hired (key : SessionKey) (state : State) : State :=
  { state with
    serial := state.serial + 1
    workers := state.workers ++ [state.newWorker key]
    upcoming := state.upcoming ++ [.worker state.serial] }

theorem done_mailbox (mailbox : Mailbox Nat) :
    (mailbox.done?.getD mailbox).capacity = mailbox.capacity ∧
      (mailbox.done?.getD mailbox).queue = mailbox.queue := by
  unfold Mailbox.done?
  split <;> exact ⟨rfl, rfl⟩

theorem modify_eq_set {assignments : List Assignment} {job : Nat} {own : Assignment}
    (found : assignments[job]? = some own) (change : Assignment → Assignment) :
    assignments.modify job change = assignments.set job (change own) := by
  apply List.ext_getElem?
  intro other
  have inside := (List.getElem?_eq_some_iff.mp found).1
  by_cases same : job = other
  · subst same
    rw [List.getElem?_modify_eq, found, List.getElem?_set_self inside]
    rfl
  · rw [List.getElem?_modify_ne _ _ same, List.getElem?_set_ne same]

/-- Word is sent when a job is the last one to end. -/
theorem State.settle_eq (job : Nat) (outcome : Outcome Nat) (state : State) :
    ∃ reports, state.settle job outcome = { state with
        assignments := state.assignments.modify job fun own =>
          { own with outcome := outcome.settle own.outcome }
        upcoming := state.upcoming ++ reports } ∧
      (reports = [] ∨ reports = [.report] ∧ state.isOpen job ∧
        (state.settle job outcome).allSettled) := by
  unfold State.settle
  dsimp only
  split
  · rename_i last
    simp only [Bool.and_eq_true] at last
    exact ⟨[.report], rfl, Or.inr ⟨rfl, last.1.1, last.2⟩⟩
  · exact ⟨[], by rw [List.append_nil]; rfl, Or.inl rfl⟩

/-! ### Whoever waits for room -/

/-- Whoever waited for room has been woken. -/
def Blocked.summons : Blocked → Nat
  | .room _ _ woken => woken.toNat
  | _ => 0

/-- Whoever waits for room in the mailbox of a worker is woken, unless they were already. -/
inductive NotesRoom (id : Nat) : Blocked → Blocked → List Token → Prop where
  | woken (job : Nat) : NotesRoom id (.room id job false) (.room id job true) [.script]
  | away {blocked : Blocked} (away : ∀ job, blocked ≠ .room id job false) :
    NotesRoom id blocked blocked []

theorem State.noteRoom_eq (id : Nat) (state : State) : ∃ blocked woken,
    NotesRoom id state.blocked blocked woken ∧
      state.noteRoom id = { state with blocked, upcoming := state.upcoming ++ woken } := by
  by_cases waits : ∃ job, state.blocked = .room id job false
  · obtain ⟨job, waits⟩ := waits
    refine ⟨.room id job true, [.script], waits ▸ .woken job, ?_⟩
    rw [State.noteRoom, waits]
    dsimp only
    rw [if_pos rfl]
    rfl
  · refine ⟨state.blocked, [], .away fun job same => waits ⟨job, same⟩, ?_⟩
    rw [List.append_nil]
    unfold State.noteRoom
    split
    · rename_i worker job same
      exact if_neg fun (own : worker = id) => waits ⟨job, own ▸ same⟩
    · rfl

namespace NotesRoom

variable {id : Nat} {before after : Blocked} {woken : List Token}

theorem wakes (notes : NotesRoom id before after woken) : ∀ token ∈ woken, token = .script := by
  cases notes with
  | woken job => exact fun token member => List.mem_singleton.mp member
  | away => nofun

theorem summons (notes : NotesRoom id before after woken) :
    woken.count .script + before.summons = after.summons := by
  cases notes with
  | woken job => rfl
  | away => exact Nat.zero_add _

theorem cases (notes : NotesRoom id before after woken) :
    after = before ∨ ∃ job, before = .room id job false ∧ after = .room id job true := by
  cases notes with
  | woken job => exact Or.inr ⟨job, rfl, rfl⟩
  | away => exact Or.inl rfl

theorem same (notes : NotesRoom id before after woken)
    (away : ∀ job, before ≠ .room id job false) : after = before ∧ woken = [] := by
  cases notes with
  | woken job => exact absurd rfl (away job)
  | away => exact ⟨rfl, rfl⟩

theorem own (notes : NotesRoom id before after woken) {job : Nat} {awake : Bool}
    (waits : after = .room id job awake) :
    awake = true ∧ (woken = [.script] ∨ before = .room id job true) := by
  cases notes with
  | woken =>
    cases waits
    exact ⟨rfl, Or.inl rfl⟩
  | away away =>
    cases awake with
    | false => exact absurd waits (away job)
    | true => exact ⟨rfl, Or.inr waits⟩

end NotesRoom

end Parley.Dispatcher
