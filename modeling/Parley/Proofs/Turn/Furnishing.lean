import Parley.Proofs.Storage.Nameless
import Parley.Proofs.Turn.Choosing

/-!
Default answers in two stores. Both stores have the same one, or both make one up that says the same.
-/

namespace Parley

open Storage (Part SameBut AlikeBut Becomes)

variable {parts : List Part} {storage other : Storage} {options : Options} {botId : String}

/-! ### Bots without a default answer -/

theorem Storage.SameBut.flagged? (same : SameBut parts storage other) (seen : .blocks ∉ parts)
    (botId flagName : String) : other.flagged? botId flagName = storage.flagged? botId flagName := by
  rw [Storage.flagged?, Storage.flagged?, same.broken, same.down]
  cases content : storage.store with
  | memory memory =>
    obtain ⟨memory', content', blank⟩ := same.memory content
    rw [content']
    simp only [Memory.flagged?, Memory.blocks_eq seen blank]
  | sql sql =>
    obtain ⟨sql', content', blank⟩ := same.sql content
    rw [content']
    simp only [Sql.flagged?, Sql.blockRows, Sql.blocks_eq seen blank]

/-- No block of a bot is its default answer. -/
def Storage.Unanswered (botId : String) (storage : Storage) : Prop :=
  storage.flagged? botId Bootstrap.answerFlag = .ok none

namespace Storage.Unanswered

theorem of_same (unanswered : storage.Unanswered botId) (same : SameBut parts storage other)
    (seen : .blocks ∉ parts) : other.Unanswered botId := by
  rw [Unanswered, same.flagged? seen]
  exact unanswered

theorem addBlock {block : Block} {store : Store} (unanswered : storage.Unanswered botId)
    (silent : block.isDefaultAnswer = false) (added : storage.store.addBlock block = .ok store) :
    Unanswered botId { storage with store } := by
  rw [Unanswered, flagged?] at unanswered ⊢
  dsimp only
  split at unanswered
  · cases unanswered
  · rename_i works
    rw [if_neg works]
    cases content : storage.store with
    | memory memory =>
      rw [content] at unanswered added
      cases added
      have named : Block.flag? Bootstrap.answerFlag = some (·.isDefaultAnswer) := rfl
      simp only [Memory.flagged?, named] at unanswered ⊢
      simp only [Except.ok.injEq, Option.map_eq_none_iff] at unanswered ⊢
      rw [List.find?_append, unanswered, List.find?_singleton, silent]
      simp
    | sql sql =>
      rw [content] at unanswered added
      have named : Sql.rowFlag? Bootstrap.answerFlag = some (·.isDefaultAnswer) := rfl
      rw [Store.addBlock] at added
      cases counted : Sql.nextSeq ((sql.blocks.filter (·.botId = block.botId)).map (·.seq)) with
      | error failure =>
        rw [counted] at added
        cases added
      | ok seq =>
        rw [counted] at added
        cases added
        simp only [named] at unanswered ⊢
        split at unanswered
        · cases unanswered
        · rename_i up
          rw [if_neg up]
          simp only [Except.ok.injEq, Sql.flagged?, Option.map_eq_none_iff] at unanswered ⊢
          refine List.find?_eq_none.mpr fun row member => ?_
          obtain ⟨kept, mine⟩ := List.mem_filter.mp (List.mem_mergeSort.mp member)
          rcases List.mem_append.mp kept with old | new
          · exact List.find?_eq_none.mp unanswered row
              (List.mem_mergeSort.mpr (List.mem_filter.mpr ⟨old, mine⟩))
          · rw [List.mem_singleton.mp new]
            exact Bool.eq_false_iff.mp silent

end Storage.Unanswered

/-! ### Blocks that are made up -/

/-- The next ids to be issued, up to a limit, are not those of blocks. -/
def Storage.Unused (count limit : Nat) (storage : Storage) : Prop :=
  ∀ number, storage.source.issued ≤ number → number < storage.source.issued + count →
    number < limit → Source.idOf number ∉ storage.store.blockIds

/-- The ids to be issued, up to a limit, are not those of blocks. -/
def Storage.SparesBlocks (limit : Nat) (storage : Storage) : Prop :=
  ∀ number, storage.source.issued ≤ number → number < limit →
    Source.idOf number ∉ storage.store.blockIds

namespace Storage.SparesBlocks

variable {limit : Nat} {reached : Storage}

theorem after (spares : storage.SparesBlocks limit) (becomes : Becomes parts storage reached)
    (seen : .blocks ∉ parts) : reached.SparesBlocks limit := by
  intro number later below
  rw [becomes.same.blockIds seen]
  exact spares number (Nat.le_trans becomes.issued later) below

theorem unused (spares : storage.SparesBlocks limit) (count : Nat) : storage.Unused count limit :=
  fun number later _ below => spares number later below

end Storage.SparesBlocks

/-- A block with what is made up for it. -/
def Block.named (block : Block) (id : String) (createdAt : Timestamp) : Block :=
  { block with id, createdAt }

section

variable (block : Block) (id : String) (createdAt : Timestamp)

@[simp] theorem Block.named_id : (block.named id createdAt).id = id := rfl

@[simp] theorem Block.named_cards : (block.named id createdAt).cards = block.cards := rfl

@[simp] theorem Block.named_isDefaultAnswer :
    (block.named id createdAt).isDefaultAnswer = block.isDefaultAnswer := rfl

@[simp] theorem Block.named_isEnabled : (block.named id createdAt).isEnabled = block.isEnabled := rfl

@[simp] theorem Block.named_nameless : (block.named id createdAt).nameless = block.nameless := rfl

end

def Storage.drawn (storage : Storage) : Storage :=
  { storage with source := ⟨storage.source.issued + 1, storage.source.micros + 1⟩ }

/-- The next block that is made up from a plain one. -/
def Storage.nextBlock (plain : Block) (storage : Storage) : Block :=
  plain.named (Source.idOf storage.source.issued) ⟨storage.source.micros, some 0⟩

/-- A draw makes up a block that says one text. -/
structure MakesUp (plain : Block) (make : Draw Block) : Prop where
  run : ∀ storage : Storage,
    outcome (Storage.draw make) storage = (.ok (storage.nextBlock plain), storage.drawn)
  enabled : plain.isEnabled = true
  single : ∃ card text, plain.cards = [⟨card, .text text⟩]

def Bootstrap.plainBlock (botId name cardId text : String) : Block where
  id := ""
  botId := botId
  name := name
  cards := [⟨some cardId, .text text⟩]
  createdAt := ⟨0, none⟩

theorem makesUp_welcome (options : Options) (botId : String) :
    MakesUp { Bootstrap.plainBlock botId "Welcome Message" "welcome-text-1" options.welcomeText with
      isWelcome := true } (Bootstrap.welcomeBlock options botId) :=
  ⟨fun _ => rfl, rfl, _, _, rfl⟩

theorem makesUp_answer (options : Options) (botId : String) :
    MakesUp { Bootstrap.plainBlock botId "Default Answer" "default-text-1" options.defaultAnswerText
      with isDefaultAnswer := true } (Bootstrap.answerBlock options botId) :=
  ⟨fun _ => rfl, rfl, _, _, rfl⟩

/-- Two blocks that say the same one text. -/
structure SayAlike (block other : Block) : Prop where
  enabled : block.isEnabled = true
  enabled' : other.isEnabled = true
  single : ∃ card text, block.cards = [⟨card, .text text⟩] ∧ other.cards = [⟨card, .text text⟩]

theorem MakesUp.sayAlike {plain : Block} {make : Draw Block} (makes : MakesUp plain make)
    (storage other : Storage) : SayAlike (storage.nextBlock plain) (other.nextBlock plain) := by
  obtain ⟨card, text, cards⟩ := makes.single
  have plainly (storage : Storage) : (storage.nextBlock plain).isEnabled = true ∧
      (storage.nextBlock plain).cards = [⟨card, .text text⟩] := by
    rw [Storage.nextBlock, Block.named_isEnabled, Block.named_cards]
    exact ⟨makes.enabled, cards⟩
  exact ⟨(plainly storage).1, (plainly other).1, card, text, (plainly storage).2, (plainly other).2⟩

namespace Bootstrap

/-- A storage after a block was made up for it and saved. -/
structure Furnishes (plain : Block) (storage : Storage) (block : Block) (reached : Storage) :
    Prop where
  made : block = storage.nextBlock plain
  added : ∃ store, storage.store.addBlock block = .ok store ∧
    reached = { storage.drawn with store }

namespace Furnishes

variable {plain block : Block} {reached : Storage} {limit : Nat}

theorem unanswered (furnishes : Furnishes plain storage block reached)
    (missing : storage.Unanswered botId) (silent : plain.isDefaultAnswer = false) :
    reached.Unanswered botId := by
  obtain ⟨rfl, store, added, rfl⟩ := furnishes
  have drawn : SameBut [.source] storage storage.drawn := rfl
  have silent : (storage.nextBlock plain).isDefaultAnswer = false := by
    rw [Storage.nextBlock, Block.named_isDefaultAnswer, silent]
  have missing := missing.of_same drawn (by decide)
  exact missing.addBlock silent added

theorem unused (furnishes : Furnishes plain storage block reached)
    (unused : storage.Unused 2 limit) : reached.Unused 1 limit := by
  obtain ⟨rfl, store, added, rfl⟩ := furnishes
  intro number later near below taken
  have next : number = storage.source.issued + 1 := Nat.le_antisymm (Nat.le_of_lt_succ near) later
  subst next
  rw [Store.addBlock_ids added] at taken
  rcases List.mem_append.mp taken with old | new
  · exact unused _ (Nat.le_succ _) (Nat.lt_succ_self _) below old
  · rw [List.mem_singleton, Storage.nextBlock, Block.named_id] at new
    exact Source.idOf_succ_ne _ new

end Furnishes

def furnish (make : Draw Block) (next : Block → Bootstrap) : StoreM Bootstrap := do
  let block ← Storage.draw make
  Storage.saveBlock block
  return next block

variable {make : Draw Block} {plain : Block} {limit limit' count : Nat}

theorem furnish_issued (makes : MakesUp plain make) (next : Block → Bootstrap) (storage : Storage) :
    (outcome (furnish make next) storage).2.source.issued = storage.source.issued + 1 := by
  have saved : Touches [.blocks] (Storage.saveBlock (storage.nextBlock plain) >>= fun _ =>
    pure (next (storage.nextBlock plain))) :=
    Within.bind (Touches.saveBlock _) fun _ => Within.pure _
  rw [furnish, outcome_bind_of_ok (makes.run storage)]
  have kept := congrArg Storage.source (saved storage.drawn).same
  exact congrArg Source.issued kept.symm

theorem furnish_alike (makes : MakesUp plain make) (next next' : Block → Bootstrap)
    (alike : AlikeBut parts storage other) (seen : .blocks ∉ parts) (drawn : .source ∈ parts)
    (unused : storage.Unused (count + 1) limit) (unused' : other.Unused (count + 1) limit')
    (bound : storage.source.issued < limit) (bound' : other.source.issued < limit') :
    Coincide (AlikeBut parts)
      (fun ended ended' => ∃ block block', ended.1 = next block ∧ ended'.1 = next' block' ∧
        Furnishes plain storage block ended.2 ∧ Furnishes plain other block' ended'.2 ∧
        AlikeBut parts ended.2 ended'.2)
      (outcome (furnish make next) storage) (outcome (furnish make next') other) := by
  have only : [Part.source] ⊆ parts := List.cons_subset.mpr ⟨drawn, List.nil_subset parts⟩
  have later (storage : Storage) : SameBut [.source] storage storage.drawn := rfl
  have alike := alike.after only (later storage) (later other)
  have free := unused _ (Nat.le_refl _) (Nat.lt_add_of_pos_right (Nat.succ_pos _)) bound
  have free' := unused' _ (Nat.le_refl _) (Nat.lt_add_of_pos_right (Nat.succ_pos _)) bound'
  have free : (storage.nextBlock plain).id ∉ storage.drawn.store.blockIds := by
    rw [Storage.nextBlock, Block.named_id]
    exact free
  have free' : (other.nextBlock plain).id ∉ other.drawn.store.blockIds := by
    rw [Storage.nextBlock, Block.named_id]
    exact free'
  have twins : (other.nextBlock plain).nameless = (storage.nextBlock plain).nameless := by
    rw [Storage.nextBlock, Storage.nextBlock, Block.named_nameless, Block.named_nameless]
  rw [furnish, furnish, outcome_bind_of_ok (makes.run storage), outcome_bind_of_ok (makes.run other)]
  refine Coincide.bind_of_runs (alike.saveBlock seen twins free free') ?_
  intro _ _ reached reached' saved saved' alike
  obtain ⟨store, added, rfl⟩ := Storage.saveBlock_adds free saved
  obtain ⟨store', added', rfl⟩ := Storage.saveBlock_adds free' saved'
  exact .ok ⟨_, _, rfl, rfl, ⟨rfl, store, added, rfl⟩, ⟨rfl, store', added', rfl⟩, alike⟩

/-! ### How long a search takes -/

/-- How many requests a search takes at most until it is finished. -/
def left : Bootstrap → Nat
  | .findAnswer => maxRequests
  | .findWelcome => 4
  | .saveWelcome => 3
  | .findAnswerAgain _ => 2
  | .loadAnswer _ | .saveAnswer _ => 1
  | .finished _ _ => 0

theorem step_left {state next : Bootstrap} {reached : Storage}
    (run : outcome (step options botId state) storage = (.ok next, reached)) :
    next.left ≤ state.left - 1 := by
  cases state with
  | findAnswer =>
    obtain ⟨found, _, _, answered⟩ := outcome_bind_ok run
    cases found with
    | some blockId =>
      cases answered
      exact Nat.le_of_ble_eq_true rfl
    | none =>
      cases answered
      split <;> exact Nat.le_of_ble_eq_true rfl
  | findWelcome | findAnswerAgain created =>
    obtain ⟨found, _, _, answered⟩ := outcome_bind_ok run
    cases found <;> cases answered <;> exact Nat.le_of_ble_eq_true rfl
  | loadAnswer blockId =>
    obtain ⟨_, _, _, answered⟩ := outcome_bind_ok run
    cases answered
    exact Nat.le_refl _
  | saveWelcome | saveAnswer created =>
    obtain ⟨_, _, _, rest⟩ := outcome_bind_ok run
    obtain ⟨_, _, _, answered⟩ := outcome_bind_ok rest
    cases answered
    exact Nat.le_refl _
  | finished created answer =>
    cases run
    exact Nat.le_refl _

theorem run_left {state ended : Bootstrap} {requests : Nat} {reached : Storage}
    (ran : outcome (run options botId requests state) storage = (.ok ended, reached)) :
    ended.left ≤ state.left - requests := by
  induction requests generalizing state storage with
  | zero =>
    cases ran
    exact Nat.le_refl _
  | succ requests ih =>
    obtain ⟨next, middle, first, rest⟩ := outcome_bind_ok ran
    have fewer := step_left first
    have more := ih rest
    omega

theorem run_finished {ended : Bootstrap} {reached : Storage}
    (ran : outcome (run options botId maxRequests .findAnswer) storage = (.ok ended, reached)) :
    ∃ created answer, ended = .finished created answer := by
  have spent : ended.left ≤ 0 := run_left ran
  cases ended with
  | finished created answer => exact ⟨created, answer, rfl⟩
  | findAnswer | loadAnswer | findWelcome | saveWelcome | findAnswerAgain | saveAnswer =>
    exact absurd spent (by simp [left, maxRequests])

/-! ### Searching in two stores -/

/-- How two searches for the default answer of a bot go on together. Until one has to be made up, the
stores have the same blocks. -/
inductive Searching (parts : List Part) (botId : String) (limit limit' : Nat) :
    Bootstrap × Storage → Bootstrap × Storage → Prop where
  | findAnswer {storage other : Storage} (same : SameBut parts storage other)
    (unused : storage.Unused 2 limit) (unused' : other.Unused 2 limit') :
    Searching parts botId limit limit' (.findAnswer, storage) (.findAnswer, other)
  | loadAnswer (blockId : String) {storage other : Storage} (same : SameBut parts storage other) :
    Searching parts botId limit limit' (.loadAnswer blockId, storage) (.loadAnswer blockId, other)
  | findWelcome {storage other : Storage} (same : SameBut parts storage other)
    (unused : storage.Unused 2 limit) (unused' : other.Unused 2 limit')
    (missing : storage.Unanswered botId) :
    Searching parts botId limit limit' (.findWelcome, storage) (.findWelcome, other)
  | saveWelcome {storage other : Storage} (same : SameBut parts storage other)
    (unused : storage.Unused 2 limit) (unused' : other.Unused 2 limit')
    (missing : storage.Unanswered botId) :
    Searching parts botId limit limit' (.saveWelcome, storage) (.saveWelcome, other)
  | findAnswerAgain (created created' : List Block) {storage other : Storage}
    (alike : AlikeBut parts storage other) (unused : storage.Unused 1 limit)
    (unused' : other.Unused 1 limit') (missing : storage.Unanswered botId)
    (missing' : other.Unanswered botId) :
    Searching parts botId limit limit' (.findAnswerAgain created, storage)
      (.findAnswerAgain created', other)
  | saveAnswer (created created' : List Block) {storage other : Storage}
    (alike : AlikeBut parts storage other) (unused : storage.Unused 1 limit)
    (unused' : other.Unused 1 limit') :
    Searching parts botId limit limit' (.saveAnswer created, storage) (.saveAnswer created', other)
  | found (answer : Option Block) {storage other : Storage} (same : SameBut parts storage other) :
    Searching parts botId limit limit' (.finished [] answer, storage) (.finished [] answer, other)
  | made (created created' : List Block) {block block' : Block} {storage other : Storage}
    (alike : AlikeBut parts storage other) (say : SayAlike block block') :
    Searching parts botId limit limit' (.finished created (some block), storage)
      (.finished created' (some block'), other)

theorem outcome_findFlagged_bind {α : Type} (flagName : String)
    (next : Option String → StoreM α) (storage : Storage) :
    outcome (Storage.findFlagged botId flagName >>= next) storage =
      match storage.flagged? botId flagName with
      | .ok found => outcome (next found) storage
      | .error failure => (.error failure, storage) := by
  rw [outcome_bind, Storage.outcome_findFlagged_eq]
  cases storage.flagged? botId flagName <;> rfl

theorem unused_mono {count fewer : Nat} (unused : storage.Unused count limit)
    (less : fewer ≤ count) : storage.Unused fewer limit :=
  fun number later near below => unused number later (by omega) below

theorem Searching.step {state state' : Bootstrap} (seen : .blocks ∉ parts) (drawn : .source ∈ parts)
    (searching : Searching parts botId limit limit' (state, storage) (state', other))
    (bound : (outcome (step options botId state) storage).2.source.issued ≤ limit)
    (bound' : (outcome (step options botId state') other).2.source.issued ≤ limit') :
    Coincide (AlikeBut parts) (Searching parts botId limit limit')
      (outcome (step options botId state) storage)
      (outcome (step options botId state') other) := by
  cases searching with
  | findAnswer same unused unused' =>
    rw [Bootstrap.step, outcome_findFlagged_bind, outcome_findFlagged_bind,
      same.flagged? seen botId answerFlag]
    cases flagged : storage.flagged? botId answerFlag with
    | error failure => exact .error same.alike
    | ok found =>
      cases found with
      | some blockId => exact .ok (.loadAnswer blockId same)
      | none =>
        dsimp only
        cases options.bootstrap with
        | true => exact .ok (.findWelcome same unused unused' flagged)
        | false => exact .ok (.found none same)
  | loadAnswer blockId same =>
    refine Coincide.bind ((Respects.getBlock seen botId blockId storage other same).coincide.mono
      (fun _ _ => SameBut.alike) fun _ _ same => same) ?_
    rintro found _ reached reached' ⟨rfl, same⟩
    exact .ok (.found found same)
  | findWelcome same unused unused' missing =>
    rw [Bootstrap.step, outcome_findFlagged_bind, outcome_findFlagged_bind,
      same.flagged? seen botId welcomeFlag]
    cases storage.flagged? botId welcomeFlag with
    | error failure => exact .error same.alike
    | ok found =>
      cases found with
      | some blockId =>
        exact .ok (.findAnswerAgain [] [] same.alike (unused_mono unused (by decide))
          (unused_mono unused' (by decide)) missing (missing.of_same same seen))
      | none => exact .ok (.saveWelcome same unused unused' missing)
  | saveWelcome same unused unused' missing =>
    have makes := makesUp_welcome options botId
    have first : Bootstrap.step options botId .saveWelcome =
      furnish (welcomeBlock options botId) fun block => .findAnswerAgain [block] := rfl
    rw [first] at bound bound' ⊢
    rw [furnish_issued makes] at bound bound'
    refine (furnish_alike makes _ _ same.alike seen drawn unused unused' bound bound').mono
      (fun _ _ alike => alike) ?_
    rintro ⟨_, reached⟩ ⟨_, reached'⟩ ⟨block, block', rfl, rfl, furnishes, furnishes', alike⟩
    exact .findAnswerAgain [block] [block'] alike (furnishes.unused unused)
      (furnishes'.unused unused') (furnishes.unanswered missing rfl)
      (furnishes'.unanswered (missing.of_same same seen) rfl)
  | findAnswerAgain created created' alike unused unused' missing missing' =>
    rw [Bootstrap.step, Bootstrap.step, outcome_findFlagged_bind, outcome_findFlagged_bind, missing,
      missing']
    exact .ok (.saveAnswer created created' alike unused unused')
  | saveAnswer created created' alike unused unused' =>
    have makes := makesUp_answer options botId
    have last (created : List Block) : Bootstrap.step options botId (.saveAnswer created) =
      furnish (answerBlock options botId) fun block => .finished (created ++ [block]) (some block) :=
        rfl
    rw [last] at bound bound' ⊢
    rw [last]
    rw [furnish_issued makes] at bound bound'
    refine (furnish_alike makes _ _ alike seen drawn unused unused' bound bound').mono
      (fun _ _ alike => alike) ?_
    rintro ⟨_, reached⟩ ⟨_, reached'⟩ ⟨block, block', rfl, rfl, furnishes, furnishes', alike⟩
    rw [furnishes.made, furnishes'.made]
    exact .made _ _ alike (makes.sayAlike storage other)
  | found answer same => exact .ok (.found answer same)
  | made created created' alike say => exact .ok (.made created created' alike say)

theorem Searching.run {state state' : Bootstrap} (requests : Nat) (seen : .blocks ∉ parts)
    (drawn : .source ∈ parts)
    (searching : Searching parts botId limit limit' (state, storage) (state', other))
    (bound : (outcome (Bootstrap.run options botId requests state) storage).2.source.issued ≤ limit)
    (bound' : (outcome (Bootstrap.run options botId requests state') other).2.source.issued ≤
      limit') :
    Coincide (AlikeBut parts) (Searching parts botId limit limit')
      (outcome (Bootstrap.run options botId requests state) storage)
      (outcome (Bootstrap.run options botId requests state') other) := by
  induction requests generalizing state state' storage other with
  | zero => exact .ok searching
  | succ requests ih =>
    have rest (state : Bootstrap) := Touches.bootstrapRun options botId requests state
    have first := Nat.le_trans (Touches.issued_bind _ rest _ storage) bound
    have first' := Nat.le_trans (Touches.issued_bind _ rest _ other) bound'
    refine (searching.step seen drawn first first').bind_of_runs ?_
    intro next next' reached reached' ran ran' searching
    rw [Bootstrap.run, outcome_bind_of_ok ran] at bound
    rw [Bootstrap.run, outcome_bind_of_ok ran'] at bound'
    exact ih searching bound bound'

/-- The default answers of a bot in two stores: the same one, or two that say the same. -/
inductive Answers (parts : List Part) :
    Option Block × Storage → Option Block × Storage → Prop where
  | found (answer : Option Block) {storage other : Storage} (same : SameBut parts storage other) :
    Answers parts (answer, storage) (answer, other)
  | made {block block' : Block} {storage other : Storage} (alike : AlikeBut parts storage other)
    (say : SayAlike block block') : Answers parts (some block, storage) (some block', other)

theorem defaultAnswer_storage (options : Options) (botId : String) (storage : Storage) :
    (outcome (defaultAnswer options botId) storage).2 =
      (outcome (run options botId maxRequests .findAnswer) storage).2 := by
  rw [defaultAnswer, outcome_bind]
  rcases outcome (run options botId maxRequests .findAnswer) storage with ⟨failure | state, reached⟩
  · rfl
  · cases state <;> rfl

theorem defaultAnswer_alike (seen : .blocks ∉ parts) (drawn : .source ∈ parts)
    (same : SameBut parts storage other) (unused : storage.Unused 2 limit)
    (unused' : other.Unused 2 limit')
    (bound : (outcome (defaultAnswer options botId) storage).2.source.issued ≤ limit)
    (bound' : (outcome (defaultAnswer options botId) other).2.source.issued ≤ limit') :
    Coincide (AlikeBut parts) (Answers parts) (outcome (defaultAnswer options botId) storage)
      (outcome (defaultAnswer options botId) other) := by
  rw [defaultAnswer_storage] at bound bound'
  have searching : Searching parts botId limit limit' (.findAnswer, storage) (.findAnswer, other) :=
    .findAnswer same unused unused'
  refine Coincide.bind_of_runs (searching.run _ seen drawn bound bound') ?_
  intro state state' reached reached' ran _ searching
  obtain ⟨created, answer, rfl⟩ := run_finished ran
  cases searching with
  | found answer same => exact .ok (.found _ same)
  | made created created' alike say =>
    dsimp only
    rw [Option.filter_some, Option.filter_some, if_pos say.enabled, if_pos say.enabled']
    exact .ok (.made alike say)

end Bootstrap

end Parley
