import Parley.Proofs.Turn.Defaults

/-!
Searches for the default answer of a bot that run at once. Each request of a search is a transaction of
its own, and between two of them other searches make theirs. Whether a block that all of them miss is
added more than once depends on who looks for it while another one is about to save it.
-/

namespace Parley

/-! ### Searches on a board -/

/-- How far a search has come. -/
inductive Bootstrap.Phase where
  | findAnswer
  | loadAnswer
  | findWelcome
  | saveWelcome
  | findAnswerAgain
  | saveAnswer
  | finished
  deriving DecidableEq

namespace Bootstrap.Phase

/-- The flag that a search looks for, to save a block with it if there is none. -/
def looks : Phase → Option BlockFlag
  | .findWelcome => some .welcome
  | .findAnswerAgain => some .defaultAnswer
  | _ => none

/-- The flag of the block that a search has missed and will save. -/
def saves : Phase → Option BlockFlag
  | .saveWelcome => some .welcome
  | .saveAnswer => some .defaultAnswer
  | _ => none

/-- Whether a search can still save a block with a flag. -/
def mayGive (flag : BlockFlag) : Phase → Bool
  | .findAnswer | .findWelcome | .saveWelcome => true
  | .findAnswerAgain | .saveAnswer => flag = .defaultAnswer
  | .loadAnswer | .finished => false

/-- Whether a search that has come so far knows that a flag is given, or gives it itself. -/
def knows (flag : BlockFlag) : Phase → Bool
  | .findAnswer | .findWelcome => false
  | .saveWelcome | .findAnswerAgain => flag = .welcome
  | .loadAnswer | .saveAnswer | .finished => true

/-- Where the next request takes a search, by how many blocks have each flag. -/
def next (count : BlockFlag → Nat) : Phase → Phase
  | .findAnswer => if count .defaultAnswer = 0 then .findWelcome else .loadAnswer
  | .loadAnswer => .finished
  | .findWelcome => if count .welcome = 0 then .saveWelcome else .findAnswerAgain
  | .saveWelcome => .findAnswerAgain
  | .findAnswerAgain => if count .defaultAnswer = 0 then .saveAnswer else .finished
  | .saveAnswer => .finished
  | .finished => .finished

variable {count : BlockFlag → Nat} {flag : BlockFlag} {phase : Phase}

theorem saves_next :
    (phase.next count).saves = some flag ↔ phase.looks = some flag ∧ count flag = 0 := by
  by_cases welcomed : count .welcome = 0 <;> by_cases answered : count .defaultAnswer = 0 <;>
    cases phase <;> cases flag <;> simp [next, saves, looks, welcomed, answered]

theorem mayGive_next (may : (phase.next count).mayGive flag = true) :
    phase.mayGive flag = true ∧ phase.saves ≠ some flag := by
  by_cases welcomed : count .welcome = 0 <;> by_cases answered : count .defaultAnswer = 0 <;>
    cases phase <;> cases flag <;> simp_all [next, saves, mayGive]

theorem knows_next (knows : (phase.next count).knows flag = true) :
    phase.knows flag = true ∨ count flag ≠ 0 ∨ count .defaultAnswer ≠ 0 ∨
      phase.looks = some flag ∧ count flag = 0 := by
  by_cases welcomed : count .welcome = 0 <;> by_cases answered : count .defaultAnswer = 0 <;>
    cases phase <;> cases flag <;> simp_all [next, Phase.knows, looks]

/-- Who looks for a default answer once more knows that there is a welcome. -/
theorem knows_of_looks (looks : phase.looks = some .defaultAnswer) :
    phase.knows .welcome = true := by
  cases phase <;> simp [Phase.looks, Phase.knows] at looks ⊢

end Bootstrap.Phase

namespace Bootstrap

/-- How many blocks have each flag, and how far each of some searches has come. -/
structure Board where
  count : BlockFlag → Nat
  phases : List Phase

namespace Board

def step (board : Board) (turn : Nat) : Board :=
  match board.phases[turn]? with
  | none => board
  | some phase =>
    { count := fun flag => board.count flag + if phase.saves = some flag then 1 else 0
      phases := board.phases.set turn (phase.next board.count) }

def run (board : Board) (schedule : List Nat) : Board := schedule.foldl step board

/-- How many searches are about to save a block with a flag. -/
def owed (flag : BlockFlag) (board : Board) : Nat := board.phases.countP (·.saves = some flag)

/-- How many blocks have a flag or are about to be saved with it. -/
def given (flag : BlockFlag) (board : Board) : Nat := board.count flag + board.owed flag

/-- A search looks for a block while another one, which has missed it, is about to save it. -/
def Overlaps (flag : BlockFlag) (board : Board) (turn : Nat) : Prop :=
  board.phases[turn]?.bind Phase.looks = some flag ∧ board.owed flag ≠ 0

variable {board : Board} {flag : BlockFlag} {turn : Nat} {phase : Phase}

theorem step_of_none (absent : board.phases[turn]? = none) : board.step turn = board := by
  rw [step, absent]

theorem step_of_some (present : board.phases[turn]? = some phase) :
    board.step turn =
      { count := fun flag => board.count flag + if phase.saves = some flag then 1 else 0
        phases := board.phases.set turn (phase.next board.count) } := by
  rw [step, present]

theorem countP_set (holds : Phase → Bool) (present : board.phases[turn]? = some phase)
    (next : Phase) :
    (board.phases.set turn next).countP holds + (if holds phase then 1 else 0) =
      board.phases.countP holds + if holds next then 1 else 0 := by
  obtain ⟨inside, rfl⟩ := List.getElem?_eq_some_iff.mp present
  have counted : (if holds board.phases[turn] then 1 else 0) ≤ board.phases.countP holds := by
    split
    · rename_i held
      exact List.countP_pos_iff.mpr ⟨_, List.getElem_mem inside, held⟩
    · exact Nat.zero_le _
  rw [List.countP_set inside]
  omega

theorem given_step (flag : BlockFlag) (board : Board) (turn : Nat) :
    (board.step turn).given flag = board.given flag +
      if board.phases[turn]?.bind Phase.looks = some flag ∧ board.count flag = 0 then 1 else 0 := by
  cases present : board.phases[turn]? with
  | none => simp [step_of_none present]
  | some phase =>
    have phases := countP_set (decide <| ·.saves = some flag) present (phase.next board.count)
    simp only [decide_eq_true_eq, Phase.saves_next] at phases
    rw [step_of_some present, given, given, owed, owed, Option.bind_some]
    dsimp only
    omega

theorem given_mono (flag : BlockFlag) (board : Board) (turn : Nat) :
    board.given flag ≤ (board.step turn).given flag := by
  rw [given_step]
  exact Nat.le_add_right _ _

theorem run_given_mono (flag : BlockFlag) (board : Board) (schedule : List Nat) :
    board.given flag ≤ (board.run schedule).given flag := by
  induction schedule generalizing board with
  | nil => exact Nat.le_refl _
  | cons turn rest ih => exact Nat.le_trans (given_mono flag board turn) (ih _)

/-- Somewhere in a schedule two searches overlap. -/
def Clashes (flag : BlockFlag) : Board → List Nat → Prop
  | _, [] => False
  | board, turn :: rest => board.Overlaps flag turn ∨ Clashes flag (board.step turn) rest

/-- A flag is given once at most as long as no two searches overlap. -/
theorem overlaps_iff (once : board.given flag ≤ 1) :
    board.Overlaps flag turn ↔ 1 < (board.step turn).given flag := by
  rw [given_step, Overlaps]
  rw [given] at once ⊢
  by_cases looks : board.phases[turn]?.bind Phase.looks = some flag
  · simp only [looks, true_and]
    split <;> omega
  · simp only [looks, false_and, if_false, Nat.add_zero, false_iff]
    exact Nat.not_lt.mpr once

theorem clashes_iff (once : board.given flag ≤ 1) (schedule : List Nat) :
    board.Clashes flag schedule ↔ 1 < (board.run schedule).given flag := by
  induction schedule generalizing board with
  | nil =>
    rw [Clashes, false_iff]
    exact Nat.not_lt.mpr once
  | cons turn rest ih =>
    have later := run_given_mono flag (board.step turn) rest
    rw [Clashes, overlaps_iff once]
    change _ ↔ 1 < ((board.step turn).run rest).given flag
    by_cases clean : (board.step turn).given flag ≤ 1
    · rw [← ih clean, or_iff_right (Nat.not_lt.mpr clean)]
    · have clash := Nat.lt_of_not_le clean
      exact ⟨fun _ => Nat.lt_of_lt_of_le clash later, fun _ => .inl clash⟩

/-! ### How often a flag is given -/

/-- How many blocks have a flag or can still be saved with it. -/
def prospect (flag : BlockFlag) (board : Board) : Nat :=
  board.count flag + board.phases.countP (·.mayGive flag)

theorem prospect_step (flag : BlockFlag) (board : Board) (turn : Nat) :
    (board.step turn).prospect flag ≤ board.prospect flag := by
  cases present : board.phases[turn]? with
  | none => rw [step_of_none present]
  | some phase =>
    have phases := countP_set (·.mayGive flag) present (phase.next board.count)
    have gives := @Phase.mayGive_next board.count flag phase
    have saves : phase.saves = some flag → phase.mayGive flag = true := by
      cases phase <;> cases flag <;> simp [Phase.saves, Phase.mayGive]
    rw [step_of_some present, prospect, prospect]
    dsimp only
    grind

theorem run_prospect (flag : BlockFlag) (board : Board) (schedule : List Nat) :
    (board.run schedule).prospect flag ≤ board.prospect flag := by
  induction schedule generalizing board with
  | nil => exact Nat.le_refl _
  | cons turn rest ih => exact Nat.le_trans (ih _) (prospect_step flag board turn)

def left (board : Board) : Nat :=
  board.phases.countP (·.mayGive .welcome) + board.phases.countP (·.mayGive .defaultAnswer)

theorem left_step (present : board.phases[turn]? = some phase) :
    (board.step turn).left + (if phase.saves = none then 0 else 1) ≤ board.left := by
  have welcomes := countP_set (·.mayGive .welcome) present (phase.next board.count)
  have answers := countP_set (·.mayGive .defaultAnswer) present (phase.next board.count)
  have gives (flag : BlockFlag) := @Phase.mayGive_next board.count flag phase
  have welcome := gives .welcome
  have answer := gives .defaultAnswer
  have saving : phase.saves = none ∨ ∃ flag, phase.saves = some flag ∧ phase.mayGive flag = true := by
    cases phase <;> simp [Phase.saves, Phase.mayGive]
  rw [step_of_some present, left, left]
  dsimp only
  rcases saving with idle | ⟨flag, saves, may⟩
  · rw [if_pos idle]
    grind
  · rw [saves, if_neg (by simp)]
    cases flag <;> grind

/-- What searches know is so. -/
structure Sound (board : Board) : Prop where
  welcomed : board.given .defaultAnswer ≠ 0 → board.given .welcome ≠ 0
  known : ∀ phase ∈ board.phases, ∀ flag, phase.knows flag = true → board.given flag ≠ 0

theorem Sound.step (sound : board.Sound) (turn : Nat) : (board.step turn).Sound := by
  have kept (flag : BlockFlag) (given : board.given flag ≠ 0) : (board.step turn).given flag ≠ 0 :=
    Nat.ne_of_gt (Nat.lt_of_lt_of_le (Nat.pos_of_ne_zero given) (given_mono flag board turn))
  cases present : board.phases[turn]? with
  | none =>
    rw [step_of_none present]
    exact sound
  | some phase =>
    have knew := sound.known phase (List.mem_of_getElem? present)
    have counted (flag : BlockFlag) (count : board.count flag ≠ 0) : board.given flag ≠ 0 := by
      rw [given]
      omega
    refine ⟨fun answers => ?_, fun other member flag knows => ?_⟩
    · by_cases before : board.given .defaultAnswer = 0
      · rw [given_step, before, present, Option.bind_some] at answers
        have looks : phase.looks = some .defaultAnswer := by
          by_contra idle
          simp [idle] at answers
        exact kept _ (knew _ (Phase.knows_of_looks looks))
      · exact kept _ (sound.welcomed before)
    · rw [step_of_some present] at member
      rcases List.mem_or_eq_of_mem_set member with old | rfl
      · exact kept _ (sound.known other old flag knows)
      · rcases Phase.knows_next knows with earlier | given | answered | ⟨looks, missing⟩
        · exact kept _ (knew flag earlier)
        · exact kept _ (counted flag given)
        · refine kept _ ?_
          cases flag with
          | welcome => exact sound.welcomed (counted _ answered)
          | defaultAnswer => exact counted _ answered
        · rw [given_step, present, Option.bind_some, if_pos ⟨looks, missing⟩]
          exact Nat.succ_ne_zero _

theorem Sound.run (sound : board.Sound) (schedule : List Nat) : (board.run schedule).Sound := by
  induction schedule generalizing board with
  | nil => exact sound
  | cons turn rest ih => exact ih (sound.step turn)

/-- A board on which nothing is given and all searches are about to begin. -/
structure Fresh (board : Board) : Prop where
  count : ∀ flag, board.count flag = 0
  phases : ∀ phase ∈ board.phases, phase = .findAnswer ∨ phase = .findWelcome

theorem Fresh.owed (fresh : board.Fresh) (flag : BlockFlag) : board.owed flag = 0 := by
  rw [Board.owed, List.countP_eq_zero]
  intro phase member
  rcases fresh.phases phase member with rfl | rfl <;> simp [Phase.saves]

theorem Fresh.given (fresh : board.Fresh) (flag : BlockFlag) : board.given flag = 0 := by
  rw [Board.given, fresh.count, fresh.owed]

theorem Fresh.sound (fresh : board.Fresh) : board.Sound := by
  refine ⟨fun given => absurd (fresh.given _) given, fun phase member flag knows => ?_⟩
  rcases fresh.phases phase member with rfl | rfl <;> cases knows

theorem step_length (board : Board) (turn : Nat) :
    (board.step turn).phases.length = board.phases.length := by
  cases present : board.phases[turn]? with
  | none => rw [step_of_none present]
  | some phase =>
    rw [step_of_some present]
    exact List.length_set

theorem run_length (board : Board) (schedule : List Nat) :
    (board.run schedule).phases.length = board.phases.length := by
  induction schedule generalizing board with
  | nil => rfl
  | cons turn rest ih => exact (ih _).trans (step_length board turn)

/-- When all searches are finished, each flag was given, at most once by each of them, and once only if
no two of them overlapped. -/
theorem Fresh.settles (fresh : board.Fresh) (searched : board.phases ≠ []) {schedule : List Nat}
    (finished : ∀ phase ∈ (board.run schedule).phases, phase = .finished) (flag : BlockFlag) :
    1 ≤ (board.run schedule).count flag ∧ (board.run schedule).count flag ≤ board.phases.length ∧
      ((board.run schedule).count flag = 1 ↔ ¬ board.Clashes flag schedule) := by
  have none (holds : Phase → Bool) (idle : holds .finished = false) :
      (board.run schedule).phases.countP holds = 0 := by
    rw [List.countP_eq_zero]
    intro phase member
    rw [finished phase member, idle]
    exact Bool.false_ne_true
  have given : (board.run schedule).given flag = (board.run schedule).count flag := by
    rw [Board.given, Board.owed, none _ (by rfl), Nat.add_zero]
  have least : (board.run schedule).given flag ≠ 0 := by
    have member : ∃ phase, phase ∈ (board.run schedule).phases := by
      rw [← List.length_pos_iff_exists_mem, run_length]
      exact List.length_pos_iff.mpr searched
    obtain ⟨phase, member⟩ := member
    refine (fresh.sound.run schedule).known phase member flag ?_
    rw [finished phase member]
    rfl
  have most := run_prospect flag board schedule
  rw [prospect, prospect, none _ (by rfl), fresh.count] at most
  have all := List.countP_le_length (p := fun phase : Phase => phase.mayGive flag) (l := board.phases)
  have once : board.given flag ≤ 1 := by
    rw [fresh.given]
    exact Nat.zero_le 1
  have clash := clashes_iff once schedule
  rw [clash, given]
  rw [given] at least
  omega

end Board

end Bootstrap

/-! ### Searches of one store -/

structure Race where
  storage : Storage
  searches : List Bootstrap

def Bootstrap.phase : Bootstrap → Bootstrap.Phase
  | .findAnswer => .findAnswer
  | .loadAnswer _ => .loadAnswer
  | .findWelcome => .findWelcome
  | .saveWelcome => .saveWelcome
  | .findAnswerAgain _ => .findAnswerAgain
  | .saveAnswer _ => .saveAnswer
  | .finished _ _ => .finished

namespace Race

/-- One of the searches makes its next request; if the request fails, the search is over. -/
def step (options : Options) (botId : String) (race : Race) (turn : Nat) : Race :=
  match race.searches[turn]? with
  | none => race
  | some search =>
    let (answer, storage) := outcome (Bootstrap.step options botId search) race.storage
    let next := match answer with
      | .ok next => next
      | .error _ => .finished [] none
    { storage, searches := race.searches.set turn next }

def run (options : Options) (botId : String) (race : Race) (schedule : List Nat) : Race :=
  schedule.foldl (step options botId) race

def board (botId : String) (race : Race) : Bootstrap.Board where
  count flag := race.storage.store.flagCount flag botId
  phases := race.searches.map (·.phase)

end Race

namespace Bootstrap.Steps

variable {options : Options} {botId : String} {storage reached : Storage} {state next : Bootstrap}

theorem phase (steps : Steps options botId storage state next reached)
    (on : options.bootstrap = true) :
    next.phase = state.phase.next fun flag => storage.store.flagCount flag botId := by
  cases steps with
  | declines absent off => cases on.symm.trans off
  | answered present | welcomed present | answeredMeanwhile present =>
    simp [Bootstrap.phase, Phase.next, present]
  | unanswered on asked absent => simp [Bootstrap.phase, Phase.next, absent]
  | unwelcomed absent | stillUnanswered absent => simp [Bootstrap.phase, Phase.next, absent]
  | loads | welcomes | answers | rests => rfl

theorem count (steps : Steps options botId storage state next reached) (flag : BlockFlag) :
    reached.store.flagCount flag botId = storage.store.flagCount flag botId +
      if state.phase.saves = some flag then 1 else 0 := by
  cases steps with
  | welcomes takes furnishes | answers takes furnishes =>
    rw [furnishes.flagCount]
    cases flag <;> simp [Bootstrap.phase, Phase.saves]
  | _ => rfl

theorem refuses (steps : Steps options botId storage state next reached) (kind : Request) :
    reached.refuses kind = storage.refuses kind := by
  cases steps with
  | welcomes takes furnishes | answers takes furnishes =>
    obtain ⟨_, store, added, rfl⟩ := furnishes
    exact Storage.refuses_addBlock added kind
  | _ => rfl

theorem issued (steps : Steps options botId storage state next reached) :
    reached.source.issued ≤ storage.source.issued + 1 := by
  cases steps with
  | welcomes takes furnishes | answers takes furnishes =>
    obtain ⟨_, store, added, rfl⟩ := furnishes
    exact Nat.le_refl _
  | _ => exact Nat.le_succ _

theorem roomy (steps : Steps options botId storage state next reached) {count : Nat}
    (roomy : storage.store.Roomy botId (count + if state.phase.saves = none then 0 else 1)) :
    reached.store.Roomy botId count := by
  cases steps with
  | welcomes takes furnishes | answers takes furnishes =>
    have owner := furnishes.stands.botId_eq
    obtain ⟨_, store, added, rfl⟩ := furnishes
    subst owner
    obtain ⟨store', added', room⟩ := Store.Roomy.addBlock roomy
    cases added.symm.trans added'
    exact room
  | _ => exact roomy

end Bootstrap.Steps

namespace Race

variable {options : Options} {botId : String} {race : Race}

/-- A race of searches that nothing hinders: the store answers and takes what they save. -/
structure Ready (options : Options) (botId : String) (race : Race) : Prop where
  on : options.bootstrap = true
  asks : race.storage.refuses .findFlagged = false
  takes : race.storage.refuses .saveBlock = false
  roomy : race.storage.store.Roomy botId (race.board botId).left
  spares : race.storage.SparesBlocks (2 ^ 64)

/-- A race goes on as it does on a board. -/
structure Goes (options : Options) (botId : String) (race : Race) (turn : Nat) (reached : Race) :
    Prop where
  ready : reached.Ready options botId
  board : reached.board botId = (race.board botId).step turn
  issued : reached.storage.source.issued ≤ race.storage.source.issued + 1

theorem board_set {turn : Nat} {search next : Bootstrap} {reached : Storage}
    (present : race.searches[turn]? = some search)
    (phase : next.phase = search.phase.next (race.board botId).count)
    (count : ∀ flag, reached.store.flagCount flag botId =
      race.storage.store.flagCount flag botId + if search.phase.saves = some flag then 1 else 0) :
    board botId ⟨reached, race.searches.set turn next⟩ = (race.board botId).step turn := by
  have shown : (race.board botId).phases[turn]? = some search.phase := by
    rw [board, List.getElem?_map, present]
    rfl
  rw [Bootstrap.Board.step_of_some shown, ← phase]
  simp only [board, List.map_set, count]

theorem Ready.step (ready : race.Ready options botId)
    (below : race.storage.source.issued < 2 ^ 64) (turn : Nat) :
    race.Goes options botId turn (race.step options botId turn) := by
  cases present : race.searches[turn]? with
  | none =>
    have absent : (race.board botId).phases[turn]? = none := by
      rw [board, List.getElem?_map, present]
      rfl
    rw [Race.step, present]
    exact ⟨ready, (Bootstrap.Board.step_of_none absent).symm, Nat.le_succ _⟩
  | some search =>
    have shown : (race.board botId).phases[turn]? = some search.phase := by
      rw [board, List.getElem?_map, present]
      rfl
    have left := Bootstrap.Board.left_step shown
    have asks := @Bootstrap.step_asks options botId _
      (ready.spares _ (Nat.le_refl _) below) search
    have becomes := Touches.bootstrapStep options botId search race.storage
    rw [Race.step, present]
    dsimp only
    generalize outcome (Bootstrap.step options botId search) race.storage = ended at asks becomes ⊢
    obtain ⟨answer, reached⟩ := ended
    have spares := asks.spares becomes ready.spares
    cases asks with
    | @goes next _ steps =>
      have board := board_set present (steps.phase ready.on) steps.count
      refine ⟨⟨ready.on, ?_, ?_, ?_, spares⟩, board, steps.issued⟩
      · exact (steps.refuses _).trans ready.asks
      · exact (steps.refuses _).trans ready.takes
      · rw [board]
        exact steps.roomy (ready.roomy.mono left)
    | @fails failure _ hindered same issued =>
      have works (kind : Request) : reached.refuses kind = race.storage.refuses kind := by
        rw [Storage.refuses, Storage.refuses, becomes.same.broken, becomes.same.down, same]
      have roomy : search.phase.saves ≠ none → race.storage.store.Roomy botId 1 := by
        intro saves
        rw [if_neg saves] at left
        exact ready.roomy.mono (Nat.le_trans (Nat.le_add_left 1 _) left)
      -- only a default answer that is there and cannot be read stops a search
      obtain ⟨blockId, rfl⟩ : ∃ blockId, search = .loadAnswer blockId := by
        cases hindered with
        | loadAnswer blockId => exact ⟨blockId, rfl⟩
        | findAnswer refuses | findWelcome refuses | findAnswerAgain _ refuses =>
          cases ready.asks.symm.trans refuses
        | saveWelcome refuses | saveAnswer _ refuses =>
          rcases refuses with refuses | crowded
          · cases ready.takes.symm.trans refuses
          · exact absurd (roomy (by simp [Bootstrap.phase, Bootstrap.Phase.saves])) crowded
      have board := @board_set botId race turn _ (.finished [] none) reached present rfl
        (fun flag => by rw [same]; rfl)
      refine ⟨⟨ready.on, ?_, ?_, ?_, spares⟩, board, issued⟩
      · exact (works _).trans ready.asks
      · exact (works _).trans ready.takes
      · change reached.store.Roomy botId _
        rw [board, same]
        exact ready.roomy.mono (Nat.le_of_add_right_le left)

theorem Ready.run (ready : race.Ready options botId) {schedule : List Nat}
    (bound : race.storage.source.issued + schedule.length ≤ 2 ^ 64) :
    (race.run options botId schedule).board botId = (race.board botId).run schedule := by
  induction schedule generalizing race with
  | nil => rfl
  | cons turn rest ih =>
    rw [List.length_cons] at bound
    obtain ⟨ready, board, issued⟩ := ready.step (by omega) turn
    rw [run, List.foldl_cons, Bootstrap.Board.run, List.foldl_cons, ← board]
    exact ih ready (by omega)

/-- A search looks for a block while another one, which has missed it, is about to save it. -/
def Overlaps (flag : BlockFlag) (race : Race) (turn : Nat) : Prop :=
  race.searches[turn]?.bind (·.phase.looks) = some flag ∧
    ∃ search ∈ race.searches, search.phase.saves = some flag

/-- Somewhere in a schedule two searches overlap. -/
def Clashes (options : Options) (botId : String) (flag : BlockFlag) : Race → List Nat → Prop
  | _, [] => False
  | race, turn :: rest =>
    race.Overlaps flag turn ∨ Clashes options botId flag (race.step options botId turn) rest

theorem overlaps_board (botId : String) (flag : BlockFlag) (race : Race) (turn : Nat) :
    race.Overlaps flag turn ↔ (race.board botId).Overlaps flag turn := by
  have looks : ((race.board botId).phases[turn]?).bind Bootstrap.Phase.looks =
      race.searches[turn]?.bind (·.phase.looks) := by
    rw [board, List.getElem?_map]
    cases race.searches[turn]? <;> rfl
  rw [Overlaps, Bootstrap.Board.Overlaps, looks, Bootstrap.Board.owed, board, List.countP_map]
  simp [List.countP_eq_zero]

theorem Ready.clashes_board (ready : race.Ready options botId) {schedule : List Nat}
    (bound : race.storage.source.issued + schedule.length ≤ 2 ^ 64) (flag : BlockFlag) :
    race.Clashes options botId flag schedule ↔ (race.board botId).Clashes flag schedule := by
  induction schedule generalizing race with
  | nil => rfl
  | cons turn rest ih =>
    rw [List.length_cons] at bound
    obtain ⟨ready, board, issued⟩ := ready.step (by omega) turn
    rw [Clashes, Bootstrap.Board.Clashes, overlaps_board botId, ← board, ih ready (by omega)]

/-- A race of searches that are about to begin, for a bot that has no default blocks. -/
structure Begins (botId : String) (race : Race) : Prop where
  bare : ∀ flag, race.storage.store.flagCount flag botId = 0
  searches : ∀ search ∈ race.searches, search = .findAnswer ∨ search = .findWelcome

theorem Begins.fresh (begins : race.Begins botId) : (race.board botId).Fresh := by
  refine ⟨begins.bare, fun phase member => ?_⟩
  obtain ⟨search, held, rfl⟩ := List.mem_map.mp member
  rcases begins.searches search held with rfl | rfl
  · exact .inl rfl
  · exact .inr rfl

theorem left_le (botId : String) (race : Race) :
    (race.board botId).left ≤ 2 * race.searches.length := by
  have each (flag : BlockFlag) :
      (race.board botId).phases.countP (·.mayGive flag) ≤ race.searches.length := by
    have all := List.countP_le_length (p := fun phase : Bootstrap.Phase => phase.mayGive flag)
      (l := (race.board botId).phases)
    rwa [board, List.length_map] at all
  have welcomes := each .welcome
  have answers := each .defaultAnswer
  rw [Bootstrap.Board.left]
  omega

/-- When all searches for the default answer of a bot are finished, whatever their requests came in
between, the bot has at least one welcome and one default answer and at most one of each for every
search. It has exactly one if and only if no search has looked for one while another, which had missed
it, was about to save it. -/
theorem searches_at_once_settle {start : Race} (begins : start.Begins botId)
    (searched : start.searches ≠ []) (on : options.bootstrap = true)
    (asks : start.storage.refuses .findFlagged = false)
    (takes : start.storage.refuses .saveBlock = false)
    (roomy : start.storage.store.Roomy botId (2 * start.searches.length))
    (spares : start.storage.SparesBlocks (2 ^ 64)) (schedule : List Nat)
    (bound : start.storage.source.issued + schedule.length ≤ 2 ^ 64)
    (finished : ∀ search ∈ (start.run options botId schedule).searches, search.phase = .finished)
    (flag : BlockFlag) :
    let count := (start.run options botId schedule).storage.store.flagCount flag botId
    1 ≤ count ∧ count ≤ start.searches.length ∧
      (count = 1 ↔ ¬ start.Clashes options botId flag schedule) := by
  have ready : start.Ready options botId :=
    ⟨on, asks, takes, roomy.mono (left_le botId start), spares⟩
  have ran := ready.run bound
  have counted : (start.run options botId schedule).storage.store.flagCount flag botId =
      ((start.board botId).run schedule).count flag :=
    congrArg (Bootstrap.Board.count · flag) ran
  have phases : (start.board botId).phases ≠ [] := by
    rw [board]
    simpa using searched
  have ended : ∀ phase ∈ ((start.board botId).run schedule).phases, phase = .finished := by
    rw [← ran]
    intro phase member
    obtain ⟨search, held, rfl⟩ := List.mem_map.mp member
    exact finished search held
  have settled := begins.fresh.settles phases ended flag
  rw [board, List.length_map] at settled
  rw [counted, ready.clashes_board bound]
  exact settled

/-- Two searches for the default answer of a bot whose database is empty. -/
def abreast : Race where
  storage := { store := .sql {}, source := ⟨0, 1714600000000000⟩ }
  searches := [.findAnswer, .findAnswer]

theorem abreast_begins : abreast.Begins "shop" := by
  refine ⟨fun flag => rfl, fun search member => .inl ?_⟩
  simpa [abreast] using member

theorem abreast_ready : abreast.Ready {} "shop" :=
  ⟨rfl, rfl, rfl, ⟨by decide, fun row member => absurd member List.not_mem_nil⟩,
    fun _ _ _ taken => absurd taken List.not_mem_nil⟩

/-- The second search waits until the first one has saved all that it misses. -/
theorem search_after_search_settles :
    let final := abreast.run {} "shop" [0, 0, 0, 0, 0, 1, 1]
    (∀ search ∈ final.searches, search.phase = .finished) ∧
      ∀ flag, final.storage.store.flagCount flag "shop" = 1 := by
  have bound : abreast.storage.source.issued + [0, 0, 0, 0, 0, 1, 1].length ≤ 2 ^ 64 := by decide
  have ran := abreast_ready.run bound
  have finished : ∀ search ∈ (abreast.run {} "shop" [0, 0, 0, 0, 0, 1, 1]).searches,
      search.phase = .finished := by
    intro search member
    have phases : ∀ phase ∈ ((abreast.board "shop").run [0, 0, 0, 0, 0, 1, 1]).phases,
        phase = .finished := by decide
    rw [← ran] at phases
    exact phases _ (List.mem_map_of_mem member)
  have apart (flag : BlockFlag) : ¬ abreast.Clashes {} "shop" flag [0, 0, 0, 0, 0, 1, 1] := by
    rw [abreast_ready.clashes_board bound, Bootstrap.Board.clashes_iff (by cases flag <;> decide)]
    cases flag <;> decide
  refine ⟨finished, fun flag => ?_⟩
  exact (searches_at_once_settle abreast_begins (by simp [abreast]) rfl rfl rfl
    ⟨by decide, fun row member => absurd member List.not_mem_nil⟩
    (fun _ _ _ taken => absurd taken List.not_mem_nil) _ bound finished flag).2.2.mpr (apart flag)

/-- Two searches that keep pace both miss what the other one is about to save, so the bot is given two
welcomes and two default answers. -/
theorem searches_in_step_double_the_defaults :
    let final := abreast.run {} "shop" [0, 1, 0, 1, 0, 1, 0, 1, 0, 1]
    (∀ flag, abreast.storage.store.flagCount flag "shop" = 0) ∧
      (∀ search ∈ final.searches, search.phase = .finished) ∧
      ∀ flag, final.storage.store.flagCount flag "shop" = 2 := by
  have bound : abreast.storage.source.issued + [0, 1, 0, 1, 0, 1, 0, 1, 0, 1].length ≤ 2 ^ 64 := by
    decide
  have ran := abreast_ready.run bound
  refine ⟨abreast_begins.bare, fun search member => ?_, fun flag => ?_⟩
  · have phases : ∀ phase ∈ ((abreast.board "shop").run [0, 1, 0, 1, 0, 1, 0, 1, 0, 1]).phases,
        phase = .finished := by decide
    rw [← ran] at phases
    exact phases _ (List.mem_map_of_mem member)
  · have counted : ((abreast.board "shop").run [0, 1, 0, 1, 0, 1, 0, 1, 0, 1]).count flag = 2 := by
      cases flag <;> decide
    rw [← ran] at counted
    exact counted

end Race

end Parley
