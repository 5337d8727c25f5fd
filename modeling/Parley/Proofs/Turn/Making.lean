import Parley.Proofs.Storage.Listings
import Parley.Proofs.Storage.Saving
import Parley.Proofs.Turn.Defaults

/-!
Making up a default answer for a bot, whatever ids are drawn for the new blocks. In a store that works,
it comes to an answer that is enabled, unless there are no numbers left for the blocks of the bot.
-/

namespace Parley

variable {storage reached : Storage} {block : Block} {botId : String} {options : Options}

/-! ### Saving a block under any id -/

theorem Storage.saveBlock_unflagged {flag : BlockFlag} (silent : flag.ofBlock block = false)
    (absent : storage.store.flagCount flag botId = 0) {answer : Unit}
    (run : outcome (saveBlock block) storage = (.ok answer, reached)) :
    reached.store.flagCount flag botId = 0 := by
  have saves := (Content.block block).save_saves storage
  rw [Content.save, run] at saves
  cases saves with
  | block holds =>
    rw [holds, Store.flagCount, List.countP_eq_zero] at absent
    refine List.countP_eq_zero.mpr fun kept member => ?_
    rcases Table.mem_put member with old | rfl
    · exact absent kept old
    · simp [silent]
  | blockRow holds up =>
    rw [holds, Store.flagCount, List.countP_eq_zero] at absent
    refine List.countP_eq_zero.mpr fun kept member => ?_
    have shown (row : BlockRow) : flag.ofRow (BlockRow.write block row) = flag.ofBlock block := by
      cases flag <;> rfl
    rcases Table.mem_put member with old | rfl
    · exact absent kept old
    · rw [shown, silent, Bool.and_false]
      exact Bool.false_ne_true

theorem Storage.Works.saveBlock_takes (works : storage.Works) {count : Nat}
    (roomy : storage.store.Roomy block.botId (count + 1)) :
    ∃ store, outcome (Storage.saveBlock block) storage = (.ok (), { storage with store }) ∧
      store.Roomy block.botId count := by
  by_cases used : block.id ∈ storage.store.blockIds
  · rw [Storage.saveBlock, outcome_request_eq, works.refuses, if_neg Bool.false_ne_true]
    cases content : storage.store with
    | memory memory => exact ⟨_, rfl, trivial⟩
    | sql sql =>
      rw [content] at roomy used
      have any : sql.blocks.any (·.id = block.id) = true := by
        obtain ⟨row, member, same⟩ := List.mem_map.mp used
        exact List.any_eq_true.mpr ⟨row, member, decide_eq_true same⟩
      obtain ⟨small, whole⟩ := roomy.mono (Nat.le_succ count)
      dsimp only
      rw [Sql.saveBlock, if_pos any]
      refine ⟨.sql _, rfl, small, fun row member mine => ?_⟩
      rcases Table.mem_update member with kept | ⟨old, kept, rfl⟩
      · exact whole row kept mine
      · exact whole old kept mine
  · obtain ⟨store, added, room⟩ := roomy.addBlock
    refine ⟨store, ?_, room⟩
    rw [outcome_saveBlock used, works.refuses, if_neg Bool.false_ne_true, added]

namespace Bootstrap

/-! ### A search for a bot without a default answer -/

/-- A search that is to make up a default answer, or has made up one that is enabled. -/
inductive Makes (botId : String) (storage : Storage) : Bootstrap → Prop where
  | findWelcome (absent : storage.store.flagCount .defaultAnswer botId = 0) :
    Makes botId storage .findWelcome
  | saveWelcome (absent : storage.store.flagCount .defaultAnswer botId = 0) :
    Makes botId storage .saveWelcome
  | findAnswerAgain (created : List Block)
    (absent : storage.store.flagCount .defaultAnswer botId = 0) :
    Makes botId storage (.findAnswerAgain created)
  | saveAnswer (created : List Block) : Makes botId storage (.saveAnswer created)
  | finished (created : List Block) {block : Block} (enabled : block.isEnabled = true) :
    Makes botId storage (.finished created (some block))

/-- How many blocks a search may still save. -/
def need : Bootstrap → Nat
  | .findAnswer | .findWelcome | .saveWelcome => 2
  | .findAnswerAgain _ | .saveAnswer _ => 1
  | .loadAnswer _ | .finished _ _ => 0

/-- How a search goes on: it still makes up an answer and has the room that it needs if it had it
before, or it stops for lack of room. -/
inductive Goes (botId : String) (storage : Storage) (state : Bootstrap) :
    Except Failure Bootstrap × Storage → Prop where
  | on {next : Bootstrap} {reached : Storage} (works : reached.Works)
    (makes : Makes botId reached next)
    (room : storage.store.Roomy botId state.need → reached.store.Roomy botId next.need) :
    Goes botId storage state (.ok next, reached)
  | stops {failure : Failure} {reached : Storage}
    (crowded : ¬ storage.store.Roomy botId state.need) :
    Goes botId storage state (.error failure, reached)

variable {state : Bootstrap}

theorem flagged?_of_works (works : storage.Works) (flag : BlockFlag) (botId : String) :
    ∃ found, storage.flagged? botId flag.name = .ok found ∧
      (found = none ↔ storage.store.flagCount flag botId = 0) := by
  obtain ⟨found, answer, none_iff⟩ := storage.flagged?_eq flag botId
  rw [works.refuses, if_neg Bool.false_ne_true] at answer
  exact ⟨found, answer, none_iff⟩

theorem Goes.furnish {make : Draw Block} {plain : Block} {next : Block → Bootstrap}
    (works : storage.Works) (made : MakesUp plain make) (owner : plain.botId = botId)
    (needs : state.need = (next (storage.nextBlock plain)).need + 1)
    (makes : ∀ reached, outcome (Storage.saveBlock (storage.nextBlock plain)) storage.drawn =
      (.ok (), reached) → Makes botId reached (next (storage.nextBlock plain))) :
    Goes botId storage state (outcome (furnish make next) storage) := by
  have drawn : storage.drawn.Works := ⟨works.whole, works.up⟩
  have owner : (storage.nextBlock plain).botId = botId := by
    rw [Storage.nextBlock, Block.named]
    exact owner
  have room (roomy : storage.store.Roomy botId state.need) :
      ∃ store, outcome (Storage.saveBlock (storage.nextBlock plain)) storage.drawn =
        (.ok (), { storage.drawn with store }) ∧
        store.Roomy botId (next (storage.nextBlock plain)).need := by
    rw [needs, ← owner] at roomy
    obtain ⟨store, taken, left⟩ := Storage.Works.saveBlock_takes drawn roomy
    rw [owner] at left
    exact ⟨store, taken, left⟩
  rw [Bootstrap.furnish, outcome_bind_of_ok (made.run storage), outcome_bind]
  rcases run : outcome (Storage.saveBlock (storage.nextBlock plain)) storage.drawn with
    ⟨failure | answer, reached⟩
  · refine .stops fun roomy => ?_
    obtain ⟨store, taken, _⟩ := room roomy
    cases run.symm.trans taken
  · have becomes := (Touches.saveBlock (storage.nextBlock plain)).apply run
    refine .on (becomes.same.works drawn) (makes reached run) fun roomy => ?_
    obtain ⟨store, taken, left⟩ := room roomy
    cases run.symm.trans taken
    exact left

theorem Makes.step (options : Options) (works : storage.Works) (makes : Makes botId storage state) :
    Goes botId storage state (outcome (Bootstrap.step options botId state) storage) := by
  cases makes with
  | findWelcome absent =>
    obtain ⟨found, answer, _⟩ := flagged?_of_works works .welcome botId
    have answer : storage.flagged? botId welcomeFlag = .ok found := answer
    rw [Bootstrap.step, outcome_findFlagged_bind, answer]
    cases found with
    | some blockId => exact .on works (.findAnswerAgain [] absent) fun roomy => roomy.mono (by decide)
    | none => exact .on works (.saveWelcome absent) id
  | saveWelcome absent =>
    refine Goes.furnish works (BlockFlag.welcome.makesUp options botId) rfl rfl fun reached run => ?_
    have absent : storage.drawn.store.flagCount .defaultAnswer botId = 0 := absent
    exact .findAnswerAgain _ (Storage.saveBlock_unflagged rfl absent run)
  | findAnswerAgain created absent =>
    obtain ⟨found, answer, none_iff⟩ := flagged?_of_works works .defaultAnswer botId
    have answer : storage.flagged? botId answerFlag = .ok found := answer
    rw [Bootstrap.step, outcome_findFlagged_bind, answer, none_iff.mpr absent]
    exact .on works (.saveAnswer created) id
  | saveAnswer created =>
    refine Goes.furnish works (BlockFlag.defaultAnswer.makesUp options botId) rfl rfl
      fun reached run => ?_
    exact .finished _ rfl
  | finished created enabled => exact .on works (.finished created enabled) id

theorem Makes.run (options : Options) (works : storage.Works) (makes : Makes botId storage state)
    (requests : Nat) :
    Goes botId storage state (outcome (Bootstrap.run options botId requests state) storage) := by
  induction requests generalizing storage state with
  | zero => exact .on works makes id
  | succ requests ih =>
    have first := makes.step options works
    rw [Bootstrap.run, outcome_bind]
    -- room that was there before the first step is there for the rest, less what that step has saved
    generalize outcome (Bootstrap.step options botId state) storage = ended at first ⊢
    cases first with
    | stops crowded => exact .stops crowded
    | @on next middle works makes room =>
      have rest := ih works makes
      dsimp only
      generalize outcome (Bootstrap.run options botId requests next) middle = ended at rest ⊢
      cases rest with
      | stops crowded => exact .stops fun roomy => crowded (room roomy)
      | on works makes room' => exact .on works makes fun roomy => room' (room roomy)

/-- A bot without a default answer is given one that is enabled, if it is to be given one and there are
numbers for two blocks. -/
theorem defaultAnswer_made (works : storage.Works) (on : options.bootstrap = true)
    (absent : storage.store.flagCount .defaultAnswer botId = 0) :
    (∃ block reached, outcome (defaultAnswer options botId) storage = (.ok (some block), reached)) ∨
      (∃ failure reached, outcome (defaultAnswer options botId) storage = (.error failure, reached)) ∧
        ¬ storage.store.Roomy botId 2 := by
  have begins : outcome (Bootstrap.step options botId .findAnswer) storage =
      (.ok .findWelcome, storage) := by
    obtain ⟨found, answer, none_iff⟩ := flagged?_of_works works .defaultAnswer botId
    have answer : storage.flagged? botId answerFlag = .ok found := answer
    rw [Bootstrap.step, outcome_findFlagged_bind, answer, none_iff.mpr absent]
    dsimp only
    rw [if_pos on]
    rfl
  have goes := (Makes.findWelcome absent).run options works (maxRequests - 1)
  have run : outcome (Bootstrap.run options botId maxRequests .findAnswer) storage =
      outcome (Bootstrap.run options botId (maxRequests - 1) .findWelcome) storage :=
    outcome_bind_of_ok begins _
  rw [defaultAnswer, outcome_bind]
  rcases ran : outcome (Bootstrap.run options botId maxRequests .findAnswer) storage with
    ⟨answer, reached⟩
  rw [← run, ran] at goes
  cases goes with
  | stops crowded => exact .inr ⟨⟨_, _, rfl⟩, crowded⟩
  | on works' makes room =>
    obtain ⟨created, answer, rfl⟩ := run_finished ran
    cases makes with
    | @finished _ block enabled =>
      refine .inl ⟨block, reached, ?_⟩
      dsimp only
      rw [Option.filter_some, if_pos enabled]
      rfl

end Bootstrap

end Parley
