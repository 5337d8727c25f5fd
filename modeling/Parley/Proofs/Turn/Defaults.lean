import Parley.Proofs.Storage.Mirrors
import Parley.Proofs.Storage.Shelves
import Parley.Proofs.Turn.Furnishing

/-!
The default blocks of a bot: how many blocks are flagged, what each request of a search for the default
answer learns and adds, and what a search that nothing disturbs leaves behind.
-/

namespace Parley

open Storage (Part SameBut)

/-! ### Blocks with a flag -/

/-- How many blocks of a bot have a flag, valid or not, enabled or not. -/
def Store.flagCount (flag : BlockFlag) (botId : String) : Store → Nat
  | .memory content => content.blocks.countP fun block => block.botId = botId && flag.ofBlock block
  | .sql content => content.blocks.countP fun row => row.botId = botId && flag.ofRow row

section

variable {parts : List Part} {store store' : Store} {block : Block} {storage : Storage}
  {flag : BlockFlag} {botId : String}

theorem Store.flagCount_blank (seen : .blocks ∉ parts) (flag : BlockFlag) (botId : String)
    (store : Store) : (store.blank parts).flagCount flag botId = store.flagCount flag botId := by
  cases store <;> simp [blank, flagCount, Memory.blank, Sql.blank, seen]

theorem Store.addBlock_flagCount (added : store.addBlock block = .ok store') (flag : BlockFlag)
    (botId : String) :
    store'.flagCount flag botId = store.flagCount flag botId +
      if block.botId = botId && flag.ofBlock block then 1 else 0 := by
  cases store with
  | memory content =>
    cases added
    rw [flagCount, flagCount, List.countP_append, List.countP_singleton]
  | sql sql =>
    obtain ⟨seq, _, rfl⟩ := addBlock_sql added
    have same : flag.ofRow (block.toRow seq) = flag.ofBlock block := by cases flag <;> rfl
    rw [flagCount, flagCount, List.countP_append, List.countP_singleton, same]
    rfl

theorem BlockFlag.ofBlock?_eq (flag : BlockFlag) : Block.flag? flag.name = some flag.ofBlock := by
  cases flag <;> rfl

theorem BlockFlag.ofRow?_eq (flag : BlockFlag) : Sql.rowFlag? flag.name = some flag.ofRow := by
  cases flag <;> rfl

theorem Storage.flagged?_eq (flag : BlockFlag) (botId : String) (storage : Storage) :
    ∃ found, storage.flagged? botId flag.name =
        (if storage.refuses .findFlagged then .error .storeDown else .ok found) ∧
      (found = none ↔ storage.store.flagCount flag botId = 0) := by
  rw [flagged?, refuses]
  cases content : storage.store with
  | memory memory =>
    refine ⟨(memory.blocks.find? fun block => block.botId = botId && flag.ofBlock block).map (·.id),
      ?_, ?_⟩
    · simp only [Memory.flagged?, flag.ofBlock?_eq, Bool.or_false, decide_eq_true_eq]
    · rw [Option.map_eq_none_iff, List.find?_eq_none, Store.flagCount, List.countP_eq_zero]
  | sql sql =>
    refine ⟨sql.flagged? botId flag.ofRow, ?_, ?_⟩
    · simp only [flag.ofRow?_eq, Bool.or_eq_true, decide_eq_true_eq]
      split
      · rename_i broken
        rw [if_pos (.inl broken)]
      · rename_i works
        simp only [works, false_or]
    · rw [Sql.flagged?, Option.map_eq_none_iff, List.find?_eq_none, Store.flagCount,
        List.countP_eq_zero, Sql.blockRows]
      simp only [List.mem_mergeSort, List.mem_filter, Bool.and_eq_true, decide_eq_true_eq, not_and,
        and_imp]

theorem Storage.flagged?_eq_none_iff (flag : BlockFlag) :
    storage.flagged? botId flag.name = .ok none ↔
      storage.refuses .findFlagged = false ∧ storage.store.flagCount flag botId = 0 := by
  obtain ⟨found, answer, none_iff⟩ := storage.flagged?_eq flag botId
  rw [answer, ← none_iff]
  cases storage.refuses .findFlagged <;> simp

theorem Storage.flagged?_eq_error (flag : BlockFlag) {failure : Failure}
    (fails : storage.flagged? botId flag.name = .error failure) :
    storage.refuses .findFlagged = true := by
  obtain ⟨found, answer, -⟩ := storage.flagged?_eq flag botId
  by_contra works
  rw [answer, if_neg works] at fails
  cases fails

theorem Storage.flagged?_eq_some (flag : BlockFlag) {blockId : String}
    (found : storage.flagged? botId flag.name = .ok (some blockId)) :
    storage.store.flagCount flag botId ≠ 0 := by
  obtain ⟨answered, answer, none_iff⟩ := storage.flagged?_eq flag botId
  intro none
  rw [answer, none_iff.mpr none] at found
  cases refused : storage.refuses .findFlagged <;> rw [refused] at found <;> cases found

end

/-! ### The default blocks -/

namespace BlockFlag

variable (options : Options) (botId : String)

/-- A default block without what is made up for it. -/
def standard : BlockFlag → Block
  | .welcome =>
    { Bootstrap.plainBlock botId "Welcome Message" "welcome-text-1" options.welcomeText with
      isWelcome := true }
  | .defaultAnswer =>
    { Bootstrap.plainBlock botId "Default Answer" "default-text-1" options.defaultAnswerText with
      isDefaultAnswer := true }

def draw : BlockFlag → Draw Block
  | .welcome => Bootstrap.welcomeBlock options botId
  | .defaultAnswer => Bootstrap.answerBlock options botId

theorem makesUp (flag : BlockFlag) : MakesUp (flag.standard options botId) (flag.draw options botId) := by
  cases flag with
  | welcome => exact makesUp_welcome options botId
  | defaultAnswer => exact makesUp_answer options botId

def Stands (flag : BlockFlag) (block : Block) : Prop :=
  ∃ id createdAt, block = (flag.standard options botId).named id createdAt

end BlockFlag

namespace BlockFlag.Stands

variable {options : Options} {botId : String} {flag : BlockFlag} {block : Block}

theorem botId_eq (stands : flag.Stands options botId block) : block.botId = botId := by
  obtain ⟨id, createdAt, rfl⟩ := stands
  cases flag <;> rfl

theorem isEnabled (stands : flag.Stands options botId block) : block.isEnabled = true := by
  obtain ⟨id, createdAt, rfl⟩ := stands
  cases flag <;> rfl

theorem ofBlock (stands : flag.Stands options botId block) (other : BlockFlag) :
    other.ofBlock block = decide (other = flag) := by
  obtain ⟨id, createdAt, rfl⟩ := stands
  cases flag <;> cases other <;> rfl

end BlockFlag.Stands

namespace Bootstrap

variable {options : Options} {botId : String} {storage reached : Storage} {flag : BlockFlag}
  {block : Block}

theorem Furnishes.stands (furnishes : Furnishes (flag.standard options botId) storage block reached) :
    flag.Stands options botId block := ⟨_, _, furnishes.made⟩

theorem Furnishes.flagCount
    (furnishes : Furnishes (flag.standard options botId) storage block reached) (other : BlockFlag)
    (bot : String) : reached.store.flagCount other bot = storage.store.flagCount other bot +
      if botId = bot ∧ other = flag then 1 else 0 := by
  have stands := furnishes.stands
  obtain ⟨_, store, added, rfl⟩ := furnishes
  rw [Store.addBlock_flagCount added, stands.botId_eq, stands.ofBlock]
  simp only [Bool.and_eq_true, decide_eq_true_eq]

/-- What a request of a search learns and adds. -/
inductive Steps (options : Options) (botId : String) (storage : Storage) :
    Bootstrap → Bootstrap → Storage → Prop where
  | answered {blockId : String} (present : storage.store.flagCount .defaultAnswer botId ≠ 0) :
    Steps options botId storage .findAnswer (.loadAnswer blockId) storage
  | declines (absent : storage.store.flagCount .defaultAnswer botId = 0)
    (off : options.bootstrap = false) :
    Steps options botId storage .findAnswer (.finished [] none) storage
  | unanswered (on : options.bootstrap = true) (asked : storage.refuses .findFlagged = false)
    (absent : storage.store.flagCount .defaultAnswer botId = 0) :
    Steps options botId storage .findAnswer .findWelcome storage
  | loads {blockId : String} {answer : Option Block} :
    Steps options botId storage (.loadAnswer blockId) (.finished [] answer) storage
  | welcomed (present : storage.store.flagCount .welcome botId ≠ 0) :
    Steps options botId storage .findWelcome (.findAnswerAgain []) storage
  | unwelcomed (absent : storage.store.flagCount .welcome botId = 0) :
    Steps options botId storage .findWelcome .saveWelcome storage
  | welcomes {block : Block} {reached : Storage} (takes : storage.refuses .saveBlock = false)
    (furnishes : Furnishes (BlockFlag.welcome.standard options botId) storage block reached) :
    Steps options botId storage .saveWelcome (.findAnswerAgain [block]) reached
  | answeredMeanwhile {created : List Block}
    (present : storage.store.flagCount .defaultAnswer botId ≠ 0) :
    Steps options botId storage (.findAnswerAgain created) (.finished created none) storage
  | stillUnanswered {created : List Block}
    (absent : storage.store.flagCount .defaultAnswer botId = 0) :
    Steps options botId storage (.findAnswerAgain created) (.saveAnswer created) storage
  | answers {created : List Block} {block : Block} {reached : Storage}
    (takes : storage.refuses .saveBlock = false)
    (furnishes : Furnishes (BlockFlag.defaultAnswer.standard options botId) storage block reached) :
    Steps options botId storage (.saveAnswer created) (.finished (created ++ [block]) (some block))
      reached
  | rests {created : List Block} {answer : Option Block} :
    Steps options botId storage (.finished created answer) (.finished created answer) storage

/-- Why a request of a search fails: the store refuses it, or it has no number for a new block. -/
inductive Hindered (botId : String) (storage : Storage) : Bootstrap → Prop where
  | findAnswer (refuses : storage.refuses .findFlagged = true) : Hindered botId storage .findAnswer
  | loadAnswer (blockId : String) : Hindered botId storage (.loadAnswer blockId)
  | findWelcome (refuses : storage.refuses .findFlagged = true) : Hindered botId storage .findWelcome
  | saveWelcome (refuses : storage.refuses .saveBlock = true ∨ ¬ storage.store.Roomy botId 1) :
    Hindered botId storage .saveWelcome
  | findAnswerAgain (created : List Block) (refuses : storage.refuses .findFlagged = true) :
    Hindered botId storage (.findAnswerAgain created)
  | saveAnswer (created : List Block)
    (refuses : storage.refuses .saveBlock = true ∨ ¬ storage.store.Roomy botId 1) :
    Hindered botId storage (.saveAnswer created)

/-- What a request of a search does: it goes on, or it fails and leaves the store as it is. -/
inductive Asks (options : Options) (botId : String) (storage : Storage) (state : Bootstrap) :
    Except Failure Bootstrap × Storage → Prop where
  | goes {next : Bootstrap} {reached : Storage}
    (steps : Steps options botId storage state next reached) :
    Asks options botId storage state (.ok next, reached)
  | fails {failure : Failure} {reached : Storage} (hindered : Hindered botId storage state)
    (same : reached.store = storage.store)
    (issued : reached.source.issued ≤ storage.source.issued + 1) :
    Asks options botId storage state (.error failure, reached)

theorem outcome_furnish {make : Draw Block} {plain : Block} (makes : MakesUp plain make)
    (next : Block → Bootstrap)
    (free : Source.idOf storage.source.issued ∉ storage.store.blockIds) :
    outcome (furnish make next) storage =
      if storage.refuses .saveBlock then (.error .storeDown, storage.drawn)
      else match storage.store.addBlock (storage.nextBlock plain) with
        | .ok store => (.ok (next (storage.nextBlock plain)), { storage.drawn with store })
        | .error failure => (.error failure, storage.drawn) := by
  have unused : (storage.nextBlock plain).id ∉ storage.drawn.store.blockIds := by
    rw [Storage.nextBlock, Block.named_id]
    exact free
  rw [furnish, outcome_bind_of_ok (makes.run storage), outcome_bind,
    Storage.outcome_saveBlock unused]
  have refuses : storage.drawn.refuses .saveBlock = storage.refuses .saveBlock := rfl
  have store : storage.drawn.store = storage.store := rfl
  rw [refuses, store]
  cases storage.refuses .saveBlock with
  | true => rfl
  | false => cases storage.store.addBlock (storage.nextBlock plain) <;> rfl

theorem furnish_asks (flag : BlockFlag) (next : Block → Bootstrap) {state : Bootstrap}
    (free : Source.idOf storage.source.issued ∉ storage.store.blockIds)
    (goes : ∀ block reached, storage.refuses .saveBlock = false →
      Furnishes (flag.standard options botId) storage block reached →
      Steps options botId storage state (next block) reached)
    (fails : storage.refuses .saveBlock = true ∨ ¬ storage.store.Roomy botId 1 →
      Hindered botId storage state) :
    Asks options botId storage state (outcome (furnish (flag.draw options botId) next) storage) := by
  rw [outcome_furnish (flag.makesUp options botId) next free]
  cases takes : storage.refuses .saveBlock with
  | true => exact .fails (fails (.inl takes)) rfl (Nat.le_refl _)
  | false =>
    cases added : storage.store.addBlock (storage.nextBlock (flag.standard options botId)) with
    | ok store => exact .goes (goes _ _ takes ⟨rfl, store, added, rfl⟩)
    | error failure =>
      refine .fails (fails (.inr fun roomy => ?_)) rfl (Nat.le_refl _)
      have owner : (storage.nextBlock (flag.standard options botId)).botId = botId := by
        cases flag <;> rfl
      rw [← owner] at roomy
      obtain ⟨store, kept, _⟩ := roomy.addBlock
      cases added.symm.trans kept

theorem step_asks (free : Source.idOf storage.source.issued ∉ storage.store.blockIds)
    (state : Bootstrap) :
    Asks options botId storage state (outcome (step options botId state) storage) := by
  cases state with
  | findAnswer =>
    rw [step, outcome_findFlagged_bind]
    cases flagged : storage.flagged? botId answerFlag with
    | error failure =>
      exact .fails (.findAnswer (Storage.flagged?_eq_error .defaultAnswer flagged)) rfl (Nat.le_succ _)
    | ok found =>
      cases found with
      | some blockId => exact .goes (.answered (Storage.flagged?_eq_some .defaultAnswer flagged))
      | none =>
        obtain ⟨asked, absent⟩ := (Storage.flagged?_eq_none_iff .defaultAnswer).mp flagged
        dsimp only
        cases on : options.bootstrap with
        | true => exact .goes (.unanswered on asked absent)
        | false => exact .goes (.declines absent on)
  | loadAnswer blockId =>
    rw [step, outcome_bind, (Touches.getBlock botId blockId).reads storage]
    cases (outcome (Storage.getBlock botId blockId) storage).1 with
    | error failure => exact .fails (.loadAnswer blockId) rfl (Nat.le_succ _)
    | ok answer => exact .goes .loads
  | findWelcome =>
    rw [step, outcome_findFlagged_bind]
    cases flagged : storage.flagged? botId welcomeFlag with
    | error failure =>
      exact .fails (.findWelcome (Storage.flagged?_eq_error .welcome flagged)) rfl (Nat.le_succ _)
    | ok found =>
      cases found with
      | some blockId => exact .goes (.welcomed (Storage.flagged?_eq_some .welcome flagged))
      | none => exact .goes (.unwelcomed ((Storage.flagged?_eq_none_iff .welcome).mp flagged).2)
  | saveWelcome =>
    exact furnish_asks .welcome (fun block => .findAnswerAgain [block]) free
      (fun _ _ takes furnishes => .welcomes takes furnishes) .saveWelcome
  | findAnswerAgain created =>
    rw [step, outcome_findFlagged_bind]
    cases flagged : storage.flagged? botId answerFlag with
    | error failure =>
      have refuses := Storage.flagged?_eq_error .defaultAnswer flagged
      exact .fails (.findAnswerAgain created refuses) rfl (Nat.le_succ _)
    | ok found =>
      cases found with
      | some blockId =>
        exact .goes (.answeredMeanwhile (Storage.flagged?_eq_some .defaultAnswer flagged))
      | none =>
        exact .goes (.stillUnanswered ((Storage.flagged?_eq_none_iff .defaultAnswer).mp flagged).2)
  | saveAnswer created =>
    exact furnish_asks .defaultAnswer (fun block => .finished (created ++ [block]) (some block)) free
      (fun _ _ takes furnishes => .answers takes furnishes) (.saveAnswer created)
  | finished created answer => exact .goes .rests

/-! ### A search that nothing disturbs -/

end Bootstrap

theorem Storage.refuses_addBlock {storage : Storage} {block : Block} {store : Store}
    (added : storage.store.addBlock block = .ok store) (kind : Request) :
    ({ storage.drawn with store } : Storage).refuses kind = storage.refuses kind := by
  unfold Storage.refuses
  cases content : storage.store with
  | memory content' =>
    rw [content] at added
    cases added
    rfl
  | sql sql =>
    rw [content] at added
    obtain ⟨seq, _, rfl⟩ := Store.addBlock_sql added
    rfl

namespace Bootstrap

/-- The default blocks that a bot lacks, if it lacks a default answer and is to be given one. -/
inductive Equips (options : Options) (botId : String) (store : Store) : List Block → Prop where
  | nothing : Equips options botId store []
  | answer {answer : Block} (on : options.bootstrap = true)
    (absent : store.flagCount .defaultAnswer botId = 0)
    (welcomed : store.flagCount .welcome botId ≠ 0)
    (answers : BlockFlag.defaultAnswer.Stands options botId answer) :
    Equips options botId store [answer]
  | both {welcome answer : Block} (on : options.bootstrap = true)
    (absent : store.flagCount .defaultAnswer botId = 0)
    (unwelcomed : store.flagCount .welcome botId = 0)
    (welcomes : BlockFlag.welcome.Stands options botId welcome)
    (answers : BlockFlag.defaultAnswer.Stands options botId answer) :
    Equips options botId store [welcome, answer]

variable {options : Options} {botId : String} {start storage reached : Storage}

structure Lacks (options : Options) (botId : String) (start : Storage) : Prop where
  on : options.bootstrap = true
  asked : start.refuses .findFlagged = false
  absent : start.store.flagCount .defaultAnswer botId = 0

/-- A storage to which the welcome was added that it lacked. -/
inductive Welcomes (options : Options) (botId : String) (start : Storage) :
    List Block → Storage → Prop where
  | before (present : start.store.flagCount .welcome botId ≠ 0) : Welcomes options botId start [] start
  | now {block : Block} {reached : Storage} (absent : start.store.flagCount .welcome botId = 0)
    (takes : start.refuses .saveBlock = false)
    (furnishes : Furnishes (BlockFlag.welcome.standard options botId) start block reached) :
    Welcomes options botId start [block] reached

/-- How far a search has come, and what it has added. -/
inductive Searches (options : Options) (botId : String) (start : Storage) :
    Bootstrap → Storage → Prop where
  | findAnswer : Searches options botId start .findAnswer start
  | loadAnswer (blockId : String) : Searches options botId start (.loadAnswer blockId) start
  | findWelcome (lacks : Lacks options botId start) : Searches options botId start .findWelcome start
  | saveWelcome (lacks : Lacks options botId start)
    (absent : start.store.flagCount .welcome botId = 0) :
    Searches options botId start .saveWelcome start
  | findAnswerAgain {created : List Block} {storage : Storage} (lacks : Lacks options botId start)
    (welcomes : Welcomes options botId start created storage) :
    Searches options botId start (.findAnswerAgain created) storage
  | saveAnswer {created : List Block} {storage : Storage} (lacks : Lacks options botId start)
    (welcomes : Welcomes options botId start created storage) :
    Searches options botId start (.saveAnswer created) storage
  | finished {created : List Block} {answer : Option Block} {storage : Storage}
    (added : start.store.addBlocks created = .ok storage.store)
    (equips : Equips options botId start.store created) :
    Searches options botId start (.finished created answer) storage

/-- How a request of a search ends: the search goes on, or nothing was added. -/
inductive Continues (options : Options) (botId : String) (start : Storage) :
    Except Failure Bootstrap × Storage → Prop where
  | goes {next : Bootstrap} {reached : Storage}
    (searches : Searches options botId start next reached) :
    Continues options botId start (.ok next, reached)
  | stops {failure : Failure} {reached : Storage} (same : reached.store = start.store) :
    Continues options botId start (.error failure, reached)

theorem Furnishes.spares {flag : BlockFlag} {block : Block}
    (furnishes : Furnishes (flag.standard options botId) storage block reached)
    (spares : storage.SparesBlocks (2 ^ 64)) : reached.SparesBlocks (2 ^ 64) := by
  obtain ⟨rfl, store, added, rfl⟩ := furnishes
  intro number later below taken
  have earlier : storage.source.issued < number := later
  rw [Store.addBlock_ids added] at taken
  rcases List.mem_append.mp taken with old | new
  · exact spares number (Nat.le_of_lt earlier) below old
  · rw [List.mem_singleton, Storage.nextBlock, Block.named_id] at new
    have same := Source.idOf_injective below (Nat.lt_trans earlier below) new
    exact Nat.ne_of_gt earlier same

namespace Welcomes

variable {created : List Block}

theorem added (welcomes : Welcomes options botId start created storage) :
    start.store.addBlocks created = .ok storage.store := by
  cases welcomes with
  | before present => rfl
  | now absent takes furnishes =>
    obtain ⟨_, store, added, rfl⟩ := furnishes
    simp [Store.addBlocks, added]

theorem still (welcomes : Welcomes options botId start created storage)
    (roomy : start.store.Roomy botId 2) :
    (∀ kind, storage.refuses kind = start.refuses kind) ∧
      storage.store.flagCount .defaultAnswer botId = start.store.flagCount .defaultAnswer botId ∧
      storage.store.Roomy botId 1 := by
  cases welcomes with
  | before present => exact ⟨fun _ => rfl, rfl, roomy.mono (by decide)⟩
  | @now block _ absent takes furnishes =>
    have counted := furnishes.flagCount .defaultAnswer botId
    rw [if_neg (by simp)] at counted
    have owner := furnishes.stands.botId_eq
    obtain ⟨made, store, added, rfl⟩ := furnishes
    rw [← owner] at roomy
    obtain ⟨store', added', roomy'⟩ := roomy.addBlock
    cases added.symm.trans added'
    rw [← owner]
    refine ⟨fun kind => ?_, ?_, roomy'⟩
    · exact Storage.refuses_addBlock added kind
    · rw [owner]
      exact counted

theorem equips {answer : Block} {reached : Storage} (lacks : Lacks options botId start)
    (welcomes : Welcomes options botId start created storage)
    (furnishes : Furnishes (BlockFlag.defaultAnswer.standard options botId) storage answer reached) :
    start.store.addBlocks (created ++ [answer]) = .ok reached.store ∧
      Equips options botId start.store (created ++ [answer]) := by
  have answers := furnishes.stands
  have before := welcomes.added
  obtain ⟨_, store, added, rfl⟩ := furnishes
  refine ⟨?_, ?_⟩
  · exact Store.addBlocks_append before (by rw [Store.addBlocks, List.foldlM_cons, added]; rfl)
  · cases welcomes with
    | before present => exact .answer lacks.on lacks.absent present answers
    | now absent takes welcomes =>
      exact .both lacks.on lacks.absent absent welcomes.stands answers

end Welcomes

theorem Searches.step {state : Bootstrap} (searches : Searches options botId start state storage)
    (roomy : start.store.flagCount .defaultAnswer botId = 0 → start.store.Roomy botId 2)
    (free : Source.idOf storage.source.issued ∉ storage.store.blockIds) :
    Continues options botId start (outcome (Bootstrap.step options botId state) storage) := by
  have asks := @step_asks options botId storage free state
  generalize outcome (Bootstrap.step options botId state) storage = ended at asks ⊢
  cases searches with
  | findAnswer =>
    cases asks with
    | fails hindered same => exact .stops same
    | goes steps =>
      cases steps with
      | answered present => exact .goes (.loadAnswer _)
      | declines absent off => exact .goes (.finished rfl .nothing)
      | unanswered on asked absent => exact .goes (.findWelcome ⟨on, asked, absent⟩)
  | loadAnswer blockId =>
    cases asks with
    | fails hindered same => exact .stops same
    | goes steps =>
      cases steps
      exact .goes (.finished rfl .nothing)
  | findWelcome lacks =>
    cases asks with
    | fails hindered same => exact .stops same
    | goes steps =>
      cases steps with
      | welcomed present => exact .goes (.findAnswerAgain lacks (.before present))
      | unwelcomed absent => exact .goes (.saveWelcome lacks absent)
  | saveWelcome lacks absent =>
    cases asks with
    | fails hindered same => exact .stops same
    | goes steps =>
      cases steps with
      | welcomes takes furnishes => exact .goes (.findAnswerAgain lacks (.now absent takes furnishes))
  | findAnswerAgain lacks welcomes =>
    obtain ⟨works, counted, _⟩ := welcomes.still (roomy lacks.absent)
    cases asks with
    | fails hindered same =>
      cases hindered with
      | findAnswerAgain _ refuses => cases (lacks.asked.symm.trans (works _).symm).trans refuses
    | goes steps =>
      cases steps with
      | answeredMeanwhile present => exact absurd (counted.trans lacks.absent) present
      | stillUnanswered absent => exact .goes (.saveAnswer lacks welcomes)
  | saveAnswer lacks welcomes =>
    obtain ⟨works, counted, room⟩ := welcomes.still (roomy lacks.absent)
    cases asks with
    | goes steps =>
      cases steps with
      | answers takes furnishes =>
        obtain ⟨added, equips⟩ := welcomes.equips lacks furnishes
        exact .goes (.finished added equips)
    | fails hindered same =>
      cases welcomes with
      | before present => exact .stops same
      | now absent takes furnishes =>
        -- the store took the welcome, so it takes the default answer as well
        cases hindered with
        | saveAnswer _ refuses =>
          rcases refuses with refuses | crowded
          · cases (takes.symm.trans (works _).symm).trans refuses
          · exact absurd room crowded
  | finished added equips =>
    cases asks with
    | fails hindered same => cases hindered
    | goes steps =>
      cases steps
      exact .goes (.finished added equips)

theorem Steps.spares {state next : Bootstrap}
    (steps : Steps options botId storage state next reached)
    (spares : storage.SparesBlocks (2 ^ 64)) :
    reached.SparesBlocks (2 ^ 64) := by
  cases steps with
  | welcomes takes furnishes | answers takes furnishes => exact furnishes.spares spares
  | _ => exact spares

theorem Asks.spares {state : Bootstrap} {answer : Except Failure Bootstrap}
    (asks : Asks options botId storage state (answer, reached))
    (becomes : Storage.Becomes [.blocks, .source] storage reached)
    (spares : storage.SparesBlocks (2 ^ 64)) :
    reached.SparesBlocks (2 ^ 64) := by
  cases asks with
  | goes steps => exact steps.spares spares
  | fails hindered same =>
    intro number later below
    have kept : reached.store.blockIds = storage.store.blockIds := congrArg Store.blockIds same
    rw [kept]
    exact spares number (Nat.le_trans becomes.issued later) below

theorem run_spares (options : Options) (botId : String) {requests : Nat} {state : Bootstrap}
    (spares : storage.SparesBlocks (2 ^ 64))
    (bound : (outcome (run options botId requests state) storage).2.source.issued < 2 ^ 64) :
    (outcome (run options botId requests state) storage).2.SparesBlocks (2 ^ 64) := by
  induction requests generalizing state storage with
  | zero => exact spares
  | succ requests ih =>
    have later := (Touches.bootstrapRun options botId (requests + 1) state storage).issued
    have free := spares _ (Nat.le_refl _) (Nat.lt_of_le_of_lt later bound)
    have asks := @step_asks options botId storage free state
    have becomes := Touches.bootstrapStep options botId state storage
    rw [run, outcome_bind] at bound ⊢
    generalize outcome (Bootstrap.step options botId state) storage = ended at bound asks becomes ⊢
    obtain ⟨failure | next, reached⟩ := ended
    · exact asks.spares becomes spares
    · exact ih (asks.spares becomes spares) bound

/-- A search goes on until it is finished, unless it fails before it has added anything. -/
theorem Searches.run {state : Bootstrap} {requests : Nat}
    (searches : Searches options botId start state storage)
    (roomy : start.store.flagCount .defaultAnswer botId = 0 → start.store.Roomy botId 2)
    (spares : storage.SparesBlocks (2 ^ 64))
    (bound : (outcome (Bootstrap.run options botId requests state) storage).2.source.issued < 2 ^ 64) :
    Continues options botId start (outcome (Bootstrap.run options botId requests state) storage) := by
  induction requests generalizing state storage with
  | zero => exact .goes searches
  | succ requests ih =>
    have later := (Touches.bootstrapRun options botId (requests + 1) state storage).issued
    have free := spares _ (Nat.le_refl _) (Nat.lt_of_le_of_lt later bound)
    have continues := searches.step roomy free
    have asks := @step_asks options botId storage free state
    rw [Bootstrap.run, outcome_bind] at bound ⊢
    generalize outcome (Bootstrap.step options botId state) storage = ended at bound continues asks ⊢
    cases continues with
    | stops same => exact .stops same
    | goes searches =>
      cases asks with
      | goes steps => exact ih searches (steps.spares spares) bound

/-- A search that nothing disturbs adds what the bot lacks of the default blocks, or nothing. -/
theorem defaultAnswer_equips
    (roomy : start.store.flagCount .defaultAnswer botId = 0 → start.store.Roomy botId 2)
    (spares : start.SparesBlocks (2 ^ 64))
    (bound : (outcome (defaultAnswer options botId) start).2.source.issued < 2 ^ 64) :
    ∃ created,
      start.store.addBlocks created = .ok (outcome (defaultAnswer options botId) start).2.store ∧
      Equips options botId start.store created := by
  rw [defaultAnswer_storage] at bound ⊢
  have continues :=
    @Searches.run options botId start start .findAnswer maxRequests .findAnswer roomy spares bound
  rcases ran : outcome (run options botId maxRequests .findAnswer) start with ⟨answer, reached⟩
  rw [ran] at continues
  cases continues with
  | stops same => exact ⟨[], congrArg Except.ok same.symm, .nothing⟩
  | @goes next _ searches =>
    obtain ⟨created, answer, rfl⟩ := run_finished ran
    cases searches with
    | finished added equips => exact ⟨created, added, equips⟩

end Bootstrap

end Parley
