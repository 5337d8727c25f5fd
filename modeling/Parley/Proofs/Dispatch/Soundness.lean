import Mathlib.Data.List.Nodup
import Parley.Proofs.Dispatch.Alarms
import Parley.Proofs.Dispatch.Lanes

/-!
Sound states of a dispatcher: who waits has an alarm, who is about to do something is awake just once,
and the jobs of each session stand in its lane. Time is kept in exact numbers.
-/

namespace Parley.Dispatcher

/-! ### Alarms -/

/-- An alarm is not past, and due when it is ringing. -/
structure Alarm.Kept (clock : Clock) (alarm : Alarm) : Prop where
  ahead : clock.now ≤ alarm.due
  due : alarm.ringing = true → alarm.due ≤ clock.now + clock.resolution

/-! ### Workers -/

def Phase.job? : Phase → Option Nat
  | .took job => some job
  | .ready job => some job
  | .running job => some job
  | _ => none

def Phase.isRunning : Phase → Bool
  | .running _ => true
  | _ => false

def Blocked.jobFor (id : Nat) : Blocked → List Nat
  | .room worker job _ => if worker = id then [job] else []
  | _ => []

/-- The jobs of a worker that have not ended: the one in its hands, those in its mailbox, and the one
that waits for room there. -/
def State.pending (worker : Worker) (state : State) : List Nat :=
  worker.phase.job?.toList ++ worker.mailbox.queue ++ state.blocked.jobFor worker.id

/-- How a worker waits: for its turn, for its alarm, or for both. -/
def Worker.Posted (tokens : List Token) (clock : Clock) (assignments : List Assignment)
    (worker : Worker) : Prop :=
  match worker.phase with
  | .created | .took _ | .ready _ | .expiring _ =>
    tokens.count (.worker worker.id) = 1 ∧ worker.alarm = none
  | .handed =>
    tokens.count (.worker worker.id) = 1 ∧ worker.alarm = none ∧ worker.mailbox.queue ≠ []
  | .looking => tokens.count (.worker worker.id) = 1 ∧ ∃ alarm, worker.alarm = some alarm ∧
      (.bell alarm.serial ∈ tokens → [.worker worker.id, .bell alarm.serial].Sublist tokens)
  | .waiting =>
    tokens.count (.worker worker.id) = 0 ∧ worker.alarm.isSome ∧ worker.mailbox.queue = []
  | .running job => ∃ own started, assignments[job]? = some own ∧ own.startedAt = some started ∧
      (tokens.count (.worker worker.id) = 1 ∧ worker.alarm = none ∧
          Lasts clock.resolution own.duration started clock.now ∨
        tokens.count (.worker worker.id) = 0 ∧ ∃ alarm, worker.alarm = some alarm ∧
          alarm.due = started + own.duration.getD 0)
  | _ => False

theorem Worker.Posted.unmoved {tokens after : List Token} {clock : Clock}
    {assignments changed : List Assignment} {worker : Worker}
    (posted : worker.Posted tokens clock assignments)
    (unmoved : Unmoved (.worker worker.id) tokens after)
    (bells : ∀ alarm ∈ worker.alarm, Unmoved (.bell alarm.serial) tokens after)
    (same : ∀ job ∈ worker.phase.job?, changed[job]? = assignments[job]?) :
    worker.Posted after clock changed := by
  unfold Posted at posted ⊢
  rw [unmoved.count]
  split at posted
  case h_6 =>
    obtain ⟨once, alarm, set, order⟩ := posted
    refine ⟨once, alarm, set, fun rings => unmoved.sublist (order ?_)⟩
    exact (bells alarm set).mem_iff.mp rings
  case h_8 job running =>
    rw [running] at same
    rw [same job rfl]
    exact posted
  all_goals exact posted

/-! ### States -/

/-- There is room in a mailbox as soon as whoever waits for it was woken; until then it is full. -/
structure RoomKept (tokens : List Token) (worker : Worker) (woken : Bool) : Prop where
  full : woken = false → worker.mailbox.isFull
  free : woken = true → worker.mailbox.isFull = false ∧ (∃ job, worker.phase = .took job) ∧
    [.script, .worker worker.id].Sublist tokens

structure Sound (calls : List Rat) (state : State) : Prop extends Numbered state where
  patience : ∃ time, state.limits.patience = .seconds time ∧ 0 < time
  exact : state.clock.precision = .exact
  resolution : 0 ≤ state.clock.resolution
  called : Called state.now state.assignments calls
  durations : ∀ own ∈ state.assignments, ∀ duration ∈ own.duration, 0 ≤ duration
  begun : state.begun.Nodup ∧ ∀ job, job ∈ state.begun ↔ (startOf state.assignments job).isSome
  keys : (state.workers.map (·.key)).Nodup
  kept : ∀ alarm ∈ state.allAlarms, alarm.Kept state.clock
  unstopped : ∀ worker ∈ state.workers, worker.stopped = false
  sizes : ∀ worker ∈ state.workers, 0 < worker.mailbox.capacity →
    worker.mailbox.queue.length ≤ worker.mailbox.capacity
  posted : ∀ worker ∈ state.workers,
    worker.Posted state.tokens state.clock state.assignments
  lanes : ∀ worker ∈ state.workers, ∃ served free,
    Lane state.clock.resolution state.now state.assignments calls worker.key worker.phase.isRunning
      (state.pending worker) served free
  empty : ∀ key, (∀ worker ∈ state.workers, worker.key ≠ key) → ∃ served free,
    Lane state.clock.resolution state.now state.assignments calls key false [] served free
  room : ∀ id job woken, state.blocked = .room id job woken → ∃ worker ∈ state.workers,
    worker.id = id ∧ RoomKept state.tokens worker woken
  waits : state.alarm.isSome → state.blocked = .time ∨ state.blocked = .jobs
  driven : state.blocked ≠ .workers

def Assignment.asked (own : Assignment) : Assignment :=
  { own with startedAt := none, endedAt := none, outcome := none }

/-- What became of the jobs: at most one was changed or submitted, one of the session with this
key. -/
inductive Edits (key : SessionKey) (now : Rat) (assignments : List Assignment) (calls : List Rat) :
    List Assignment → List Rat → Prop where
  | none : Edits key now assignments calls assignments calls
  | change {job : Nat} {own changed : Assignment} (found : assignments[job]? = some own)
    (owned : own.key = key) (keeps : changed.asked = own.asked) :
    Edits key now assignments calls (assignments.set job changed) calls
  | submit {own : Assignment} (owned : own.key = key) (fresh : own.asked = own)
    (lasts : ∀ duration ∈ own.duration, 0 ≤ duration) :
    Edits key now assignments calls (assignments ++ [own]) (calls ++ [now])

namespace Edits

variable {key : SessionKey} {now : Rat} {assignments changed : List Assignment}
  {calls more : List Rat}

theorem same (edits : Edits key now assignments calls changed more) {job : Nat} {own : Assignment}
    (found : assignments[job]? = some own) (stranger : own.key ≠ key) :
    changed[job]? = assignments[job]? := by
  cases edits with
  | none => rfl
  | change found' owned keeps =>
    refine List.getElem?_set_ne fun equal => stranger ?_
    rw [equal, found] at found'
    exact Option.some.inj found' ▸ owned
  | submit => exact List.getElem?_append_left (List.getElem?_eq_some_iff.mp found).1

theorem lane (edits : Edits key now assignments calls changed more) {resolution : Rat}
    {other : SessionKey} {running : Bool} {pending served : List Nat} {free : Option Rat}
    (called : Called now assignments calls)
    (lane : Lane resolution now assignments calls other running pending served free)
    (stranger : key ≠ other) : Lane resolution now changed more other running pending served free := by
  cases edits with
  | none => exact lane
  | change found owned keeps =>
    exact lane.other found (congrArg Assignment.key keeps :) (owned ▸ stranger)
  | submit owned => exact lane.submit_other called (owned ▸ stranger)

theorem called (edits : Edits key now assignments calls changed more)
    (called : Called now assignments calls) : Called now changed more := by
  cases edits with
  | none => exact called
  | change => exact ⟨called.length.trans (List.length_set ..).symm, called.past⟩
  | submit =>
    refine ⟨by simp [called.length], fun call member => ?_⟩
    rcases List.mem_append.mp member with old | new
    · exact called.past call old
    · exact (List.mem_singleton.mp new).le

theorem durations (edits : Edits key now assignments calls changed more)
    (durations : ∀ own ∈ assignments, ∀ duration ∈ own.duration, 0 ≤ duration) :
    ∀ own ∈ changed, ∀ duration ∈ own.duration, 0 ≤ duration := by
  cases edits with
  | none => exact durations
  | change found owned keeps =>
    intro own member
    rcases List.mem_or_eq_of_mem_set member with old | rfl
    · exact durations own old
    · intro duration takes
      refine durations _ (List.mem_of_getElem? found) duration ?_
      exact (congrArg Assignment.duration keeps).symm.trans takes
  | submit owned fresh lasts =>
    intro own member
    rcases List.mem_append.mp member with old | new
    · exact durations own old
    · exact List.mem_singleton.mp new ▸ lasts

theorem asked (edits : Edits key now assignments calls changed more) (same : more = calls) :
    changed.map Assignment.asked = assignments.map Assignment.asked := by
  cases edits with
  | none => rfl
  | change found owned keeps =>
    apply List.ext_getElem?
    intro other
    rename_i job own changed
    rw [List.getElem?_map, List.getElem?_map]
    by_cases equal : job = other
    · subst equal
      rw [List.getElem?_set_self (List.getElem?_eq_some_iff.mp found).1, found]
      exact congrArg some keeps
    · rw [List.getElem?_set_ne equal]
  | submit => simp at same

end Edits

/-- A worker is replaced: its token or its bell may have had its turn, and it or the script may have
been woken. -/
structure Replaces (calls more : List Rat) (worker changed : Worker) (gone woken : List Token)
    (state after : State) : Prop where
  member : worker ∈ state.workers
  id : changed.id = worker.id
  key : changed.key = worker.key
  workers : after.workers = state.workers.map fun other =>
    if other.id = worker.id then changed else other
  limits : after.limits = state.limits
  clock : after.clock = state.clock
  alarm : after.alarm = state.alarm
  serial : state.serial ≤ after.serial
  edits : Edits worker.key state.now state.assignments calls after.assignments more
  tokens : ∃ rest, state.tokens = gone ++ rest ∧ after.tokens = rest ++ woken
  goes : ∀ token ∈ gone, token = .script ∨ token = .report ∨ token = .worker worker.id ∨
    ∃ alarm ∈ worker.alarm, token = .bell alarm.serial
  wakes : ∀ token ∈ woken, token = .script ∨ token = .report ∨ token = .worker worker.id
  jobs : ∀ id, id ≠ worker.id → after.blocked.jobFor id = state.blocked.jobFor id
  rooms : ∀ id job woken, id ≠ worker.id → after.blocked = .room id job woken →
    state.blocked = .room id job woken ∧ .script ∉ gone
  waits : state.blocked = .time ∨ state.blocked = .jobs → after.blocked = state.blocked
  driven : after.blocked = .workers → state.blocked = .workers

namespace Replaces

variable {calls more : List Rat} {state after : State} {worker changed : Worker} {gone woken : List Token}

theorem mem (replaces : Replaces calls more worker changed gone woken state after) {other : Worker}
    (inside : other ∈ after.workers) :
    other = changed ∨ other ∈ state.workers ∧ other.id ≠ worker.id := by
  rw [replaces.workers] at inside
  obtain ⟨before, member, rfl⟩ := List.mem_map.mp inside
  by_cases same : before.id = worker.id
  · rw [if_pos same]
    exact Or.inl rfl
  · rw [if_neg same]
    exact Or.inr ⟨member, same⟩

theorem unmoved (replaces : Replaces calls more worker changed gone woken state after) {other : Nat}
    (differs : other ≠ worker.id) : Unmoved (.worker other) state.tokens after.tokens := by
  obtain ⟨rest, before, now⟩ := replaces.tokens
  refine ⟨gone, rest, woken, before, now, fun member => ?_, fun member => ?_⟩
  · rcases replaces.goes _ member with same | same | same | ⟨alarm, _, same⟩ <;> cases same
    exact differs rfl
  · rcases replaces.wakes _ member with same | same | same <;> cases same
    exact differs rfl

theorem silent (replaces : Replaces calls more worker changed gone woken state after) (serial : Nat) :
    .bell serial ∉ woken := by
  intro member
  rcases replaces.wakes _ member with same | same | same <;> cases same

theorem bell_waits (replaces : Replaces calls more worker changed gone woken state after) {serial : Nat}
    (differs : ∀ alarm ∈ worker.alarm, alarm.serial ≠ serial) : .bell serial ∉ gone := by
  intro member
  rcases replaces.goes _ member with same | same | same | ⟨alarm, set, same⟩ <;> cases same
  exact differs alarm set rfl

theorem unmoved_bell (replaces : Replaces calls more worker changed gone woken state after) {serial : Nat}
    (differs : ∀ alarm ∈ worker.alarm, alarm.serial ≠ serial) :
    Unmoved (.bell serial) state.tokens after.tokens := by
  obtain ⟨rest, before, now⟩ := replaces.tokens
  exact ⟨gone, rest, woken, before, now, replaces.bell_waits differs, replaces.silent serial⟩

theorem ids (replaces : Replaces calls more worker changed gone woken state after) :
    after.workers.map (·.id) = state.workers.map (·.id) := by
  rw [replaces.workers, List.map_map]
  apply List.map_congr_left
  intro other _
  by_cases same : other.id = worker.id
  · simp [same, replaces.id]
  · simp [same]

theorem keys (replaces : Replaces calls more worker changed gone woken state after) (sound : Sound calls state) :
    after.workers.map (·.key) = state.workers.map (·.key) := by
  rw [replaces.workers, List.map_map]
  apply List.map_congr_left
  intro other member
  by_cases same : other.id = worker.id
  · have equal := List.inj_on_of_nodup_map sound.ids member replaces.member same
    simp [equal, replaces.key]
  · simp [same]

theorem changed_mem (replaces : Replaces calls more worker changed gone woken state after) :
    changed ∈ after.workers := by
  rw [replaces.workers]
  exact List.mem_map.mpr ⟨worker, replaces.member, if_pos rfl⟩

theorem moves (replaces : Replaces calls more worker changed gone woken state after)
    (numbered : Numbered state)
    (alarms : ∀ alarm ∈ changed.alarm, alarm.IsNew state after ∨
      alarm ∈ worker.alarm ∧ .bell alarm.serial ∉ gone) :
    Moves (some worker.id) gone woken state after where
  tokens := replaces.tokens
  silent := replaces.silent
  called id member := by
    rcases replaces.wakes _ member with same | same | same <;> cases same
    exact Nat.lt_of_lt_of_le (numbered.old worker replaces.member) replaces.serial
  serial := replaces.serial
  ids := replaces.ids ▸ List.Sublist.refl _
  others other member acts := by
    rcases replaces.mem member with rfl | ⟨old, differs⟩
    · exact absurd (congrArg some replaces.id) acts
    · refine ⟨old, fun gone => ?_, fun woken => ?_, fun alarm set => replaces.bell_waits ?_⟩
      · rcases replaces.goes _ gone with same | same | same | ⟨alarm, -, same⟩
        · cases same
        · cases same
        · exact differs (Token.worker.inj same)
        · cases same
      · rcases replaces.wakes _ woken with same | same | same
        · cases same
        · cases same
        · exact differs (Token.worker.inj same)
      · intro own owned same
        exact differs
          (numbered.alone other old worker replaces.member alarm set own owned same.symm)
  own other member acts alarm set := by
    rcases replaces.mem member with rfl | ⟨-, differs⟩
    · exact (alarms alarm set).imp_right fun old =>
        ⟨⟨worker, replaces.member, replaces.id.symm, old.1⟩, old.2⟩
    · exact absurd (Option.some.inj acts) differs
  script alarm set := by
    rw [replaces.alarm] at set
    refine Or.inr ⟨set, replaces.bell_waits fun own owned same => ?_⟩
    exact numbered.apart worker replaces.member own owned alarm set same.symm

end Replaces

theorem State.job_mem_pending {worker : Worker} {job : Nat} (held : job ∈ worker.phase.job?)
    (state : State) : job ∈ state.pending worker := by
  apply List.mem_append_left
  apply List.mem_append_left
  exact Option.mem_toList.mpr held

theorem Replaces.other {calls more : List Rat} {state after : State} {worker changed other : Worker}
    {gone woken : List Token} (replaces : Replaces calls more worker changed gone woken state after)
    (sound : Sound calls state) (member : other ∈ state.workers) (differs : other.id ≠ worker.id) :
    other.Posted after.tokens after.clock after.assignments ∧
      ∃ served free, Lane after.clock.resolution after.now after.assignments more other.key
        other.phase.isRunning (after.pending other) served free := by
  have stranger : worker.key ≠ other.key := fun same => differs
    (congrArg Worker.id (List.inj_on_of_nodup_map sound.keys member replaces.member same.symm))
  have bells (alarm : Alarm) (set : alarm ∈ other.alarm) :
      Unmoved (.bell alarm.serial) state.tokens after.tokens :=
    replaces.unmoved_bell fun own owned same =>
      differs (sound.alone other member worker replaces.member alarm set own owned same.symm)
  obtain ⟨served, free, lane⟩ := sound.lanes other member
  constructor
  · rw [replaces.clock]
    refine (sound.posted other member).unmoved (replaces.unmoved differs) bells fun job held => ?_
    obtain ⟨own, found, owned⟩ := lane.mem_pending (state.job_mem_pending held)
    exact replaces.edits.same found (owned ▸ stranger.symm)
  · have pending : after.pending other = state.pending other := by
      rw [State.pending, State.pending, replaces.jobs other.id differs]
    rw [pending, State.now, replaces.clock]
    exact ⟨served, free, replaces.edits.lane sound.called lane stranger⟩

theorem Sound.replace {calls more : List Rat} {state after : State} {worker changed : Worker}
    {gone woken : List Token} (sound : Sound calls state)
    (replaces : Replaces calls more worker changed gone woken state after)
    (begun : after.begun.Nodup ∧
      ∀ job, job ∈ after.begun ↔ (startOf after.assignments job).isSome)
    (alarms : ∀ alarm ∈ changed.alarm, alarm.Kept after.clock ∧ (alarm.IsNew state after ∨
      alarm ∈ worker.alarm ∧ .bell alarm.serial ∉ gone))
    (unstopped : changed.stopped = false)
    (size : 0 < changed.mailbox.capacity →
      changed.mailbox.queue.length ≤ changed.mailbox.capacity)
    (posted : changed.Posted after.tokens after.clock after.assignments)
    (lane : ∃ served free, Lane after.clock.resolution after.now after.assignments more worker.key
      changed.phase.isRunning (after.pending changed) served free)
    (room : ∀ job woken, after.blocked = .room worker.id job woken →
      RoomKept after.tokens changed woken) :
    Sound more after := by
  have moves := replaces.moves sound.toNumbered fun alarm set => (alarms alarm set).2
  constructor
  case toNumbered => exact sound.toNumbered.moves moves
  case patience => exact replaces.limits ▸ sound.patience
  case exact => exact replaces.clock ▸ sound.exact
  case resolution => exact replaces.clock ▸ sound.resolution
  case called =>
    rw [State.now, replaces.clock]
    exact replaces.edits.called sound.called
  case durations => exact replaces.edits.durations sound.durations
  case begun => exact begun
  case keys => exact replaces.keys sound ▸ sound.keys
  case kept =>
    intro alarm member
    rcases State.mem_allAlarms.mp member with own | ⟨other, inside, set⟩
    · rw [replaces.alarm] at own
      exact replaces.clock ▸ sound.kept alarm (State.mem_allAlarms.mpr (Or.inl own))
    · rcases replaces.mem inside with rfl | ⟨old, -⟩
      · exact (alarms alarm set).1
      · exact replaces.clock ▸ sound.kept alarm (State.mem_allAlarms_of_worker old set)
  case unstopped =>
    intro other member
    rcases replaces.mem member with rfl | ⟨old, -⟩
    · exact unstopped
    · exact sound.unstopped other old
  case sizes =>
    intro other member
    rcases replaces.mem member with rfl | ⟨old, -⟩
    · exact size
    · exact sound.sizes other old
  case posted =>
    intro other member
    rcases replaces.mem member with rfl | ⟨old, differs⟩
    · exact posted
    · exact (replaces.other sound old differs).1
  case lanes =>
    intro other member
    rcases replaces.mem member with rfl | ⟨old, differs⟩
    · rw [replaces.key]
      exact lane
    · exact (replaces.other sound old differs).2
  case empty =>
    intro key strangers
    have away : worker.key ≠ key := replaces.key ▸ strangers changed replaces.changed_mem
    have none (other : Worker) (member : other ∈ state.workers) : other.key ≠ key := by
      have kept := replaces.keys sound
      intro same
      have inside : key ∈ after.workers.map (·.key) := by
        rw [kept]
        exact List.mem_map.mpr ⟨other, member, same⟩
      obtain ⟨now, there, owned⟩ := List.mem_map.mp inside
      exact strangers now there owned
    obtain ⟨served, free, lane⟩ := sound.empty key none
    rw [State.now, replaces.clock]
    exact ⟨served, free, replaces.edits.lane sound.called lane away⟩
  case room =>
    intro id job woken' blocked
    by_cases same : id = worker.id
    · subst same
      exact ⟨changed, replaces.changed_mem, replaces.id, room job woken' blocked⟩
    · obtain ⟨before, silent⟩ := replaces.rooms id job woken' same blocked
      obtain ⟨other, member, rfl, kept⟩ := sound.room id job woken' before
      have inside : other ∈ after.workers := by
        rw [replaces.workers]
        exact List.mem_map.mpr ⟨other, member, if_neg same⟩
      obtain ⟨rest, first, now⟩ := replaces.tokens
      refine ⟨other, inside, rfl, kept.full, fun awake => ?_⟩
      obtain ⟨free, took, order⟩ := kept.free awake
      refine ⟨free, took, ?_⟩
      rw [now]
      exact sublist_of_gone (first ▸ order) silent woken
  case waits =>
    intro set
    rw [replaces.alarm] at set
    rw [replaces.waits (sound.waits set)]
    exact sound.waits set
  case driven => exact fun stops => sound.driven (replaces.driven stops)

end Parley.Dispatcher
