import Parley.Proofs.Dispatch.Alarms
import Parley.Proofs.Dispatch.Schedule

/-!
What a mailbox hides. Nothing is lost in it and everything comes out in its order, and a reader that may
wait finds nothing only if nothing is there. One that may not wait is turned away from a full mailbox
as well, and so a dispatcher whose workers may not wait begins no job at all.
-/

namespace Parley

/-! ## Calls -/

namespace Mailbox

variable {α : Type}

inductive Call (α : Type) where
  | put (patience : Rat) (item : α)
  | get (timeout : Rat)
  | drain
  deriving Repr

/-- A mailbox, with what it has accepted and what was taken out of it. -/
structure Traffic (α : Type) where
  mailbox : Mailbox α
  accepted : List α := []
  taken : List α := []
  deriving Repr

namespace Traffic

def call (traffic : Traffic α) : Call α → Traffic α
  | .put patience item =>
    let (isIn, _, mailbox) := traffic.mailbox.put patience item
    { traffic with mailbox, accepted := traffic.accepted ++ if isIn then [item] else [] }
  | .get timeout =>
    let (item, _, mailbox) := traffic.mailbox.get timeout
    { traffic with mailbox, taken := traffic.taken ++ item.toList }
  | .drain =>
    let (items, mailbox) := traffic.mailbox.drain
    { traffic with mailbox, taken := traffic.taken ++ items }

/-- What was accepted has been taken out in its order, but for what is still there. -/
def Balanced (traffic : Traffic α) : Prop :=
  traffic.accepted = traffic.taken ++ traffic.mailbox.queue

theorem Balanced.call {traffic : Traffic α} (balanced : traffic.Balanced) (asked : Call α) :
    (traffic.call asked).Balanced := by
  unfold Balanced at balanced ⊢
  cases asked with
  | put patience item =>
    unfold Traffic.call Mailbox.put
    by_cases full : traffic.mailbox.isFull
    · simp [full, balanced]
    · simp [full, balanced, push]
  | get timeout =>
    unfold Traffic.call Mailbox.get
    by_cases impatient : timeout ≤ 0
    · simp [impatient, balanced]
    · cases queue : traffic.mailbox.queue <;> simp [impatient, take?, queue, balanced]
  | drain => simp [Traffic.call, Mailbox.drain, balanced]

theorem Balanced.calls {traffic : Traffic α} (balanced : traffic.Balanced) (calls : List (Call α)) :
    (calls.foldl Traffic.call traffic).Balanced := by
  induction calls generalizing traffic with
  | nil => exact balanced
  | cons asked calls ih => exact ih (balanced.call asked)

end Traffic

theorem get_fst (timeout : Rat) (mailbox : Mailbox α) :
    (mailbox.get timeout).1 = if timeout ≤ 0 then none else mailbox.queue.head? := by
  unfold Mailbox.get take?
  split
  · rfl
  · cases mailbox.queue <;> rfl

theorem get_eq_none_iff (timeout : Rat) (mailbox : Mailbox α) :
    (mailbox.get timeout).1 = none ↔ timeout ≤ 0 ∨ mailbox.queue = [] := by
  rw [get_fst]
  by_cases impatient : timeout ≤ 0 <;> simp [impatient]

end Mailbox

/-! ## Workers -/

namespace Dispatcher

def Patience.waits : Patience → Prop
  | .seconds time => 0 < time
  | .endless => True
  | .unknown => False

def Phase.isServing : Phase → Bool
  | .looking | .waiting | .handed | .took _ | .ready _ | .running _ => true
  | _ => false

/-- A worker waits in front of an empty mailbox only, and is never let in if it may not wait. -/
structure Worker.Attends (patience : Patience) (worker : Worker) : Prop where
  waits : worker.phase.isServing → patience.waits
  empty : worker.phase = .waiting → worker.mailbox.queue = []

variable {patience : Patience} {worker changed : Worker} {state after : State}

theorem Worker.Attends.congr (attends : worker.Attends patience) (phase : changed.phase = worker.phase)
    (queue : changed.mailbox.queue = worker.mailbox.queue) : changed.Attends patience :=
  ⟨phase ▸ attends.waits, queue ▸ phase ▸ attends.empty⟩

theorem Worker.Attends.idle (idle : changed.phase.isServing = false) : changed.Attends patience where
  waits serving := absurd serving (by simp [idle])
  empty waiting := absurd idle (by simp [waiting, Phase.isServing])

theorem Worker.Attends.serving (waits : patience.waits) (busy : changed.phase ≠ .waiting) :
    changed.Attends patience :=
  ⟨fun _ => waits, fun waiting => absurd waiting busy⟩

/-- All workers attend to their mailboxes, and nothing has begun if they may not wait. -/
structure Attentive (patience : Patience) (state : State) : Prop where
  limits : state.limits.patience = patience
  ids : (state.workers.map (·.id)).Nodup
  old : ∀ worker ∈ state.workers, worker.id < state.serial
  attends : ∀ worker ∈ state.workers, worker.Attends patience
  begun : ¬ patience.waits → state.begun = []

theorem Attentive.initial (limits : Limits) (clock : Clock) (rest : List Action) :
    Attentive limits.patience { limits, clock, rest } :=
  ⟨rfl, List.nodup_nil, nofun, nofun, fun _ => rfl⟩

structure Untouched (state after : State) : Prop where
  workers : after.workers = state.workers
  limits : after.limits = state.limits
  serial : after.serial = state.serial
  begun : after.begun = state.begun

namespace Untouched

theorem trans {last : State} (first : Untouched state after) (second : Untouched after last) :
    Untouched state last :=
  ⟨second.workers.trans first.workers, second.limits.trans first.limits,
    second.serial.trans first.serial, second.begun.trans first.begun⟩

theorem settle (job : Nat) (outcome : Outcome Nat) (state : State) :
    Untouched state (state.settle job outcome) := by
  obtain ⟨reports, settled, -⟩ := State.settle_eq job outcome state
  rw [settled]
  exact ⟨rfl, rfl, rfl, rfl⟩

theorem settleAll (jobs : List Nat) (state : State) :
    Untouched state (jobs.foldl (fun state job => state.settle job .cancelled) state) := by
  induction jobs generalizing state with
  | nil => exact ⟨rfl, rfl, rfl, rfl⟩
  | cons job jobs ih => exact (settle job .cancelled state).trans (ih _)

theorem complete (job : Nat) (state : State) : Untouched state (state.complete job) := by
  have marked : Untouched state (state.changeJob job fun own => { own with endedAt := some state.now }) :=
    ⟨rfl, rfl, rfl, rfl⟩
  unfold State.complete
  dsimp only
  split
  · exact marked.trans (settle job _ _)
  · exact marked

theorem noteRoom (id : Nat) (state : State) : Untouched state (state.noteRoom id) := by
  obtain ⟨blocked, woken, -, noted⟩ := State.noteRoom_eq id state
  rw [noted]
  exact ⟨rfl, rfl, rfl, rfl⟩

theorem noteGone (state : State) : Untouched state state.noteGone := by
  unfold State.noteGone
  split <;> exact ⟨rfl, rfl, rfl, rfl⟩

end Untouched

namespace Attentive

theorem untouched (attentive : Attentive patience state) (untouched : Untouched state after) :
    Attentive patience after where
  ids := untouched.workers ▸ attentive.ids
  limits := untouched.limits ▸ attentive.limits
  old worker member := untouched.serial ▸ attentive.old worker (untouched.workers ▸ member)
  attends worker member := attentive.attends worker (untouched.workers ▸ member)
  begun := untouched.begun ▸ attentive.begun

theorem wake (attentive : Attentive patience state) (token : Token) :
    Attentive patience (state.wake token) :=
  attentive.untouched ⟨rfl, rfl, rfl, rfl⟩

theorem later (attentive : Attentive patience state) (seconds : Rat) :
    Attentive patience (state.alarmIn seconds).2 :=
  { attentive with old := fun worker member => Nat.lt_succ_of_lt (attentive.old worker member) }

theorem noteRoom (attentive : Attentive patience state) (id : Nat) :
    Attentive patience (state.noteRoom id) :=
  attentive.untouched (.noteRoom id state)

theorem sole (attentive : Attentive patience state) (member : worker ∈ state.workers) :
    ∀ other ∈ state.workers, other.id = worker.id → other = worker :=
  fun _ inside same => List.inj_on_of_nodup_map attentive.ids inside member same

theorem changeWorker (attentive : Attentive patience state) {id : Nat} {change : Worker → Worker}
    (named : ∀ worker, worker.id = id → (change worker).id = worker.id)
    (attends : ∀ worker ∈ state.workers, worker.id = id →
      (change worker).Attends patience) :
    Attentive patience (state.changeWorker id change) where
  limits := attentive.limits
  ids := by
    have same : (state.changeWorker id change).workers.map (·.id) = state.workers.map (·.id) := by
      unfold State.changeWorker
      rw [List.map_map]
      apply List.map_congr_left
      intro worker _
      rw [Function.comp_apply]
      split
      · exact named worker ‹_›
      · rfl
    rw [same]
    exact attentive.ids
  old other inside := by
    obtain ⟨worker, member, rfl⟩ := List.mem_map.mp inside
    split
    · exact named worker ‹_› ▸ attentive.old worker member
    · exact attentive.old worker member
  attends other inside := by
    obtain ⟨worker, member, rfl⟩ := List.mem_map.mp inside
    split
    · exact attends worker member ‹_›
    · exact attentive.attends worker member
  begun := attentive.begun

end Attentive

theorem State.mem_changeWorker (member : worker ∈ state.workers) (change : Worker → Worker) :
    change worker ∈ (state.changeWorker worker.id change).workers :=
  List.mem_map.mpr ⟨worker, member, if_pos rfl⟩

/-! ### Turns of workers -/

namespace Attentive

variable {job : Nat}

theorem setPhase (attentive : Attentive patience state) (id : Nat) {phase : Phase}
    (attends : phase.isServing → patience.waits ∧ phase ≠ .waiting) :
    Attentive patience (state.setPhase id phase) := by
  refine attentive.changeWorker (fun _ _ => rfl) fun worker _ _ => ?_
  by_cases serving : phase.isServing
  · exact .serving (attends serving).1 (attends serving).2
  · exact .idle (by simpa using serving)

theorem idles (attentive : Attentive patience state) (id : Nat) {phase : Phase} (idle : phase.isServing = false) :
    Attentive patience (state.setPhase id phase) :=
  attentive.setPhase id fun serving => absurd serving (by simp [idle])

theorem exit (attentive : Attentive patience state) (worker : Worker) :
    Attentive patience (state.exit worker) := by
  have left : Attentive patience { state with workers := state.workers.filter (·.id ≠ worker.id) } :=
    { limits := attentive.limits
      ids := attentive.ids.sublist (List.filter_sublist.map _)
      old := fun other inside => attentive.old other (List.mem_of_mem_filter inside)
      attends := fun other inside => attentive.attends other (List.mem_of_mem_filter inside)
      begun := attentive.begun }
  exact ((left.noteRoom worker.id).untouched (.settleAll _ _)).untouched (.noteGone _)

theorem openJob (attentive : Attentive patience state) (waits : patience.waits) (job : Nat) :
    Attentive patience (state.openJob job) :=
  { attentive with begun := fun impatient => absurd waits impatient }

theorem runFor (attentive : Attentive patience state) (waits : patience.waits) (id job : Nat)
    (duration : Rat) : Attentive patience (state.runFor id job duration) := by
  have running : Attentive patience ((state.openJob job).setPhase id (.running job)) :=
    (attentive.openJob waits job).setPhase id fun _ => ⟨waits, nofun⟩
  unfold State.runFor
  dsimp only
  split
  · exact running.wake _
  · refine (running.later duration).changeWorker (fun _ _ => rfl) fun worker member _ => ?_
    exact (running.attends worker member).congr rfl rfl

theorem waits (attentive : Attentive patience state) (member : worker ∈ state.workers)
    (serving : worker.phase.isServing) : patience.waits :=
  (attentive.attends worker member).waits serving

theorem becomes (attentive : Attentive patience state) (waits : patience.waits) {busy : Worker}
    (named : busy.id = worker.id) (phase : busy.phase ≠ .waiting) :
    Attentive patience ((state.changeWorker worker.id fun _ => busy).noteRoom worker.id) :=
  (attentive.changeWorker (fun _ same => named.trans same.symm)
    fun _ _ _ => .serving waits phase).noteRoom _

theorem settlesDown (attentive : Attentive patience state) (member : worker ∈ state.workers)
    (waits : patience.waits) (empty : worker.mailbox.queue = []) :
    Attentive patience (state.changeWorker worker.id fun worker => { worker with phase := .waiting }) := by
  refine attentive.changeWorker (fun _ _ => rfl) fun other inside same => ?_
  obtain rfl := attentive.sole member other inside same
  exact ⟨fun _ => waits, fun _ => empty⟩

theorem takeOrWait (attentive : Attentive patience state) (member : worker ∈ state.workers)
    (waits : patience.waits) : Attentive patience (state.takeOrWait worker) := by
  unfold State.takeOrWait Mailbox.take?
  cases queue : worker.mailbox.queue with
  | nil =>
    dsimp only
    split
    · exact attentive.exit worker
    · exact attentive.settlesDown member waits queue
  | cons job rest =>
    let taken : Worker := { worker with
      mailbox := { worker.mailbox with queue := rest }, phase := .took job, alarm := none
      stopped := false }
    exact (attentive.becomes waits (show taken.id = worker.id from rfl) nofun).wake _

theorem lookAtOnce (attentive : Attentive patience state) (member : worker ∈ state.workers)
    (waits : patience.waits) : Attentive patience (state.lookAtOnce worker) := by
  unfold State.lookAtOnce Mailbox.take?
  cases queue : worker.mailbox.queue with
  | nil => exact attentive.settlesDown member waits queue
  | cons job rest =>
    let ready : Worker := { worker with
      mailbox := { worker.mailbox with queue := rest }, phase := .ready job }
    have taken := attentive.becomes waits (show ready.id = worker.id from rfl) nofun
    dsimp only
    split
    · exact taken.runFor waits _ _ _
    · exact taken.wake _

theorem look (attentive : Attentive patience state) (member : worker ∈ state.workers) :
    Attentive patience (state.look worker) := by
  unfold State.look
  dsimp only
  split
  · rename_i endless
    have waits : patience.waits := by
      rw [← attentive.limits, endless]
      trivial
    exact attentive.lookAtOnce member waits
  · exact attentive.exit worker
  · rename_i time limits
    split
    · exact (attentive.idles _ rfl).wake _
    · have waits : patience.waits := by
        rw [← attentive.limits, limits]
        exact lt_of_not_ge ‹_›
      refine Attentive.wake ?_ _
      refine (attentive.later time).changeWorker (fun _ _ => rfl) fun _ _ _ => ?_
      exact .serving waits nofun

theorem finish (attentive : Attentive patience state) (member : worker ∈ state.workers) (job : Nat) :
    Attentive patience (state.finish worker job) := by
  have queue (worker : Worker) := (done_mailbox worker.mailbox).2
  unfold State.finish
  dsimp only
  set mailbox := worker.mailbox.done?.getD worker.mailbox with done
  have changed : Attentive patience
      (state.changeWorker worker.id fun worker => { worker with mailbox }) := by
    refine attentive.changeWorker (fun _ _ => rfl) fun other inside same => ?_
    obtain rfl := attentive.sole member other inside same
    exact (attentive.attends other member).congr rfl (queue other)
  have inside := State.mem_changeWorker member fun worker => { worker with mailbox }
  have untouched := Untouched.complete job
    (state.changeWorker worker.id fun worker => { worker with mailbox })
  exact (changed.untouched untouched).look (untouched.workers ▸ inside)

theorem start (attentive : Attentive patience state) (member : worker ∈ state.workers)
    (waits : patience.waits) (job : Nat) : Attentive patience (state.start worker job) := by
  unfold State.start
  split
  · exact attentive.runFor waits _ _ _
  · exact (attentive.openJob waits job).finish member job

theorem workerTurn (attentive : Attentive patience state) (member : worker ∈ state.workers) :
    Attentive patience (state.workerTurn worker) := by
  unfold State.workerTurn
  cases now : worker.phase with
  | created => exact attentive.look member
  | stillborn => exact (attentive.idles _ rfl).untouched (.noteGone _)
  | looking => exact attentive.takeOrWait member (attentive.waits member (by rw [now]; rfl))
  | waiting => exact attentive
  | handed =>
    have waits := attentive.waits member (by rw [now]; rfl)
    dsimp only
    split
    · exact attentive.lookAtOnce member waits
    · exact attentive.takeOrWait member waits
  | took job =>
    have waits := attentive.waits member (by rw [now]; rfl)
    exact (attentive.setPhase _ fun _ => ⟨waits, by nofun⟩).wake _
  | ready job => exact attentive.start member (attentive.waits member (by rw [now]; rfl)) job
  | running job => exact attentive.finish member job
  | aborting job => exact (attentive.untouched (.settle job .cancelled state)).exit worker
  | expiring turns =>
    cases turns with
    | zero =>
      dsimp only
      split
      · exact attentive.exit worker
      · exact attentive.look member
    | succ turns => exact (attentive.idles _ rfl).wake _
  | closing => exact attentive.exit worker
  | dead => exact attentive

end Attentive

/-! ### Turns of others -/

namespace Attentive

variable {actions : List Action}

theorem stopWorker (attentive : Attentive patience state) (worker : Worker) :
    Attentive patience (state.stopWorker worker) := by
  unfold State.stopWorker
  cases worker.phase with
  | created => exact attentive.idles _ rfl
  | looking =>
    refine attentive.changeWorker (fun _ _ => rfl) fun other inside _ => ?_
    exact (attentive.attends other inside).congr rfl rfl
  | waiting => exact (attentive.idles _ rfl).wake _
  | handed =>
    dsimp only
    split
    · exact attentive.idles _ rfl
    · exact attentive
  | running job =>
    dsimp only
    split
    · exact (attentive.idles _ rfl).wake _
    · exact attentive.idles _ rfl
  | expiring turns => exact attentive.idles _ rfl
  | _ => exact attentive

theorem stopAll (attentive : Attentive patience state) (todo : List Worker) :
    Attentive patience (todo.foldl (fun state worker => state.stopWorker worker) state) := by
  induction todo generalizing state with
  | nil => exact attentive
  | cons worker todo ih => exact ih (attentive.stopWorker worker)

theorem deliver (attentive : Attentive patience state) (member : worker ∈ state.workers) (job : Nat) :
    Attentive patience (state.deliver worker job) := by
  unfold State.deliver
  dsimp only
  split
  · rename_i waiting
    have waits := attentive.waits member (by rw [waiting]; rfl)
    refine Attentive.wake ?_ _
    refine attentive.changeWorker (fun _ _ => rfl) fun _ _ _ => ?_
    exact .serving waits nofun
  · rename_i busy
    refine attentive.changeWorker (fun _ _ => rfl) fun other inside same => ?_
    obtain rfl := attentive.sole member other inside same
    exact ⟨(attentive.attends other member).waits, fun waiting => absurd waiting busy⟩

theorem tryDeliver (attentive : Attentive patience state) (member : worker ∈ state.workers) (job : Nat) :
    Attentive patience (state.tryDeliver worker job).2 := by
  unfold State.tryDeliver
  split
  · exact attentive.untouched ⟨rfl, rfl, rfl, rfl⟩
  · exact (attentive.deliver member job).untouched ⟨rfl, rfl, rfl, rfl⟩

theorem hires (attentive : Attentive patience state) (key : SessionKey) :
    Attentive patience (state.hired key) where
  limits := attentive.limits
  ids := by
    rw [State.hired, List.map_append]
    refine attentive.ids.append (List.nodup_singleton _) fun id member new => ?_
    obtain ⟨worker, inside, rfl⟩ := List.mem_map.mp member
    exact absurd (List.mem_singleton.mp new) (attentive.old worker inside).ne
  old worker member := by
    rcases List.mem_append.mp member with old | new
    · exact Nat.lt_succ_of_lt (attentive.old worker old)
    · rw [List.mem_singleton.mp new]
      exact Nat.lt_succ_self _
  attends worker member := by
    rcases List.mem_append.mp member with old | new
    · exact attentive.attends worker old
    · rw [List.mem_singleton.mp new]
      exact .idle rfl
  begun := attentive.begun

theorem submit (attentive : Attentive patience state) (assignment : Assignment) :
    Attentive patience (state.begin (.submit assignment)).2 := by
  have noted : Attentive patience { state with assignments := state.assignments ++ [assignment] } :=
    attentive.untouched ⟨rfl, rfl, rfl, rfl⟩
  unfold State.begin State.workerFor
  dsimp only
  split
  · rename_i worker found
    exact noted.tryDeliver (List.mem_of_find?_eq_some found) _
  · exact (noted.hires assignment.key).tryDeliver (List.mem_append_right _ (List.mem_singleton_self _)) _

theorem begins (attentive : Attentive patience state) (action : Action) :
    Attentive patience (state.begin action).2 := by
  cases action with
  | submit assignment => exact attentive.submit assignment
  | sleep seconds =>
    unfold State.begin
    dsimp only
    split
    · exact attentive.untouched ⟨rfl, rfl, rfl, rfl⟩
    · exact (attentive.later seconds).untouched ⟨rfl, rfl, rfl, rfl⟩
  | stop =>
    unfold State.begin
    dsimp only
    split
    · exact attentive
    · exact (attentive.stopAll _).untouched ⟨rfl, rfl, rfl, rfl⟩
  | join =>
    unfold State.begin
    dsimp only
    split
    · exact attentive
    · split
      · exact attentive.untouched ⟨rfl, rfl, rfl, rfl⟩
      · exact (attentive.later State.joinTimeout).untouched ⟨rfl, rfl, rfl, rfl⟩

theorem runs (attentive : Attentive patience state) (actions : List Action) :
    Attentive patience (State.runActions actions state) := by
  induction actions generalizing state with
  | nil => exact attentive.untouched ⟨rfl, rfl, rfl, rfl⟩
  | cons action rest ih =>
    have begins := attentive.begins action
    unfold State.runActions
    split
    all_goals rename_i same; rw [same] at begins
    · exact ih (begins.untouched ⟨rfl, rfl, rfl, rfl⟩)
    · exact begins.untouched ⟨rfl, rfl, rfl, rfl⟩

theorem goOn (attentive : Attentive patience state) : Attentive patience state.goOn := by
  have recorded : Attentive patience ({ state with blocked := .nothing, alarm := none } : State).record :=
    attentive.untouched ⟨rfl, rfl, rfl, rfl⟩
  exact recorded.runs _

theorem scriptTurn (attentive : Attentive patience state) :
    Attentive patience state.scriptTurn := by
  unfold State.scriptTurn
  split
  · exact attentive.runs _
  · exact attentive.goOn
  · exact attentive.goOn
  · have empty : Attentive patience { state with workers := [] } :=
      ⟨attentive.limits, List.nodup_nil, nofun, nofun, attentive.begun⟩
    exact empty.goOn
  · rename_i id job woken _
    split
    · exact attentive.goOn
    · rename_i worker found
      have delivered := attentive.tryDeliver (List.mem_of_find?_eq_some found) job
      split
      all_goals rename_i same; rw [same] at delivered
      · exact delivered.goOn
      · exact delivered

theorem answerBell (attentive : Attentive patience state) (serial : Nat) :
    Attentive patience (state.answerBell serial) := by
  unfold State.answerBell
  split
  · exact attentive.untouched ⟨rfl, rfl, rfl, rfl⟩
  · split
    · rename_i worker found
      have member := List.mem_of_find?_eq_some found
      refine Attentive.wake ?_ _
      by_cases waiting : worker.phase = .waiting
      · rw [if_pos waiting]
        exact attentive.idles _ rfl
      · rw [if_neg waiting]
        refine attentive.setPhase _ fun serving => ⟨attentive.waits member serving, waiting⟩
    · exact attentive

theorem nextRound (attentive : Attentive patience state) : Attentive patience state.nextRound := by
  have passed : Untouched state (if state.upcoming.isEmpty then state.passTime else state) := by
    split
    · obtain ⟨clock, same, -⟩ := state.passTime_eq
      rw [same]
      exact ⟨rfl, rfl, rfl, rfl⟩
    · exact ⟨rfl, rfl, rfl, rfl⟩
  have ready := attentive.untouched passed
  unfold State.nextRound
  generalize (if state.upcoming.isEmpty then state.passTime else state) = middle at ready
  rw [State.ring_eq]
  constructor
  · exact ready.limits
  · have same : (middle.workers.map (Worker.rung middle.ringing)).map (·.id) =
        middle.workers.map (·.id) := by
      rw [List.map_map]
      rfl
    exact same ▸ ready.ids
  · intro other inside
    obtain ⟨worker, member, rfl⟩ := List.mem_map.mp inside
    exact ready.old worker member
  · intro other inside
    obtain ⟨worker, member, rfl⟩ := List.mem_map.mp inside
    exact (ready.attends worker member).congr rfl rfl
  · exact ready.begun

theorem turn (attentive : Attentive patience state) : Attentive patience state.turn := by
  unfold State.turn
  split
  · exact attentive.nextRound
  · rename_i token awake _
    have popped : Attentive patience { state with awake } := attentive.untouched ⟨rfl, rfl, rfl, rfl⟩
    dsimp only
    split
    · exact popped.scriptTurn
    · exact popped.answerBell _
    · unfold State.answerReport
      split
      · exact popped.untouched ⟨rfl, rfl, rfl, rfl⟩
      · exact popped
    · split
      · exact popped.workerTurn (List.mem_of_find?_eq_some ‹_›)
      · exact popped

theorem iterate (attentive : Attentive patience state) (turns : Nat) :
    Attentive patience (State.turn^[turns] state) := by
  induction turns with
  | zero => exact attentive
  | succ turns ih =>
    rw [Function.iterate_succ_apply']
    exact ih.turn

end Attentive

/-! ### What is overlooked -/

/-- Nothing is lost in a mailbox and everything comes out in its order, and a reader gets nothing just if
it may not wait or nothing is there. Likewise a worker never waits with a job in its mailbox; if
workers may not wait none ever begins a job, and if they may they begin each job of a script once. -/
theorem jobs_are_overlooked_iff_impatient {α : Type} (capacity : Int) (calls : List (Mailbox.Call α))
    (mailboxSize : Int) (time : Rat) (clock : Clock) (script : List Action) (turns : Nat) :
    let traffic : Mailbox.Traffic α := calls.foldl Mailbox.Traffic.call { mailbox := { capacity } }
    let state : State :=
      State.turn^[turns] { limits := { mailboxSize, patience := .seconds time }, clock, rest := script }
    (traffic.accepted = traffic.taken ++ traffic.mailbox.queue ∧
      ∀ timeout, (traffic.mailbox.get timeout).1 = none ↔
        timeout ≤ 0 ∨ traffic.mailbox.queue = []) ∧
    (∀ worker ∈ state.workers, worker.phase = .waiting → worker.mailbox.queue = []) ∧
    (time ≤ 0 → state.begun = []) ∧
    (0 < time → clock.precision = .exact → 0 ≤ clock.resolution →
      (∀ action ∈ script, action.IsPlain) → turnsFor script ≤ turns →
        state.begun.Perm (List.range state.assignments.length)) := by
  intro traffic state
  have fresh : (show Mailbox.Traffic α from { mailbox := { capacity } }).Balanced := rfl
  have balanced : traffic.Balanced := fresh.calls calls
  have attentive : Attentive (.seconds time) state :=
    (Attentive.initial { mailboxSize, patience := .seconds time } clock script).iterate turns
  refine ⟨⟨balanced, fun timeout => Mailbox.get_eq_none_iff timeout _⟩,
    fun worker member => (attentive.attends worker member).empty, fun impatient => ?_, ?_⟩
  · exact attentive.begun (not_lt_of_ge impatient)
  · intro waits exact resolution plain enough
    let limits : Limits := { mailboxSize, patience := .seconds time }
    obtain ⟨_, follows, quiet⟩ := (Follows.initial (show limits.patience = .seconds time from rfl)
      waits exact resolution).rests plain ((Follows.initial_rank limits).trans enough)
    exact (follows.scheduled quiet).once

/-- One that may not wait is told that nothing is there, and the job stays where it is. -/
theorem impatient_reader_overlooks_job :
    let mailbox := (({} : Mailbox String).put 1 "hello").2.2
    let job : Action := .submit { key := ⟨"bot", "ann"⟩, duration := some 1 }
    let state := runScript { patience := .seconds 0 } [job, .join]
    (mailbox.queue = ["hello"] ∧ (mailbox.get 0).1 = none ∧ (mailbox.get (-1)).1 = none) ∧
      state.begun = [] ∧ state.isOpen 0 := by
  decide +kernel

end Dispatcher

end Parley
