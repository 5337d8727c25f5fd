import Parley.Proofs.Turn.Limits

/-!
Turns in the blocks of a store. If a turn has steps enough for all cards, it fails at a limit exactly
when its jumps lead in a circle. It is charged one step for each card that it runs, and one more where it
finds that the cards of a block are over.
-/

namespace Parley

/-- Where a turn starts in the blocks of a bot: with the first card of a block, or where a question
leads. -/
inductive StartsInBlock (find : FindBlock) (botId : String) : Transition → Prop where
  | fresh {block : Block} (found : find botId block.id = .ok (some block)) :
    StartsInBlock find botId block.begin
  | resumed {question : CardQuestion} {next : Transition}
    (found : find botId question.block.id = .ok (some question.block))
    (posed : question.block.input? question.index =
      some (question.variableName, question.nextBlockId))
    (leads : question.next find = .ok next) : StartsInBlock find botId next

variable {find : FindBlock} {botId : String} {start : Transition}

theorem StartsInBlock.inside (starts : StartsInBlock find botId start) (faithful : find.Faithful) :
    start.Inside find botId := by
  cases starts with
  | fresh found => exact faithful.begins found
  | @resumed question next found posed leads =>
    have owned := (faithful _ _ _ found).2
    unfold CardQuestion.next at leads
    rw [owned] at leads
    split at leads
    · rename_i blockId _
      cases look : find botId blockId with
      | error failure =>
        rw [look] at leads
        cases leads
      | ok target =>
        rw [look] at leads
        cases leads
        exact faithful.arrives look
    · cases leads
      have asks : (question.block.input? question.index).isSome := by rw [posed]; rfl
      have nonneg := Block.input?_nonneg asks
      have inside := Block.input?_lt asks
      exact ⟨by omega, by omega, found⟩

namespace Storage

variable {storage : Storage}

theorem findsIn (storage : Storage) : storage.findBlock.FindsIn storage.store.blocks where
  faithful := storage.findBlock_faithful
  listed _ _ _ found := findBlock_mem found

theorem Serves.answers (serves : storage.Serves) : storage.findBlock.Answers := serves.findBlock_ok

end Storage

namespace Turn

variable {σ : Type} {options : Options} {bot : Bot} {incoming : Incoming} {world : World σ}
  {session : Session} {begun : Start} {reached : Storage}

/-- A turn in valid blocks that has steps enough fails at a limit exactly when its walk goes on for
ever, and then because it enters a block twice. To enter a block for the first time is never refused,
also if the turn has resumed in it. -/
theorem circles_are_found (carry : Carrier σ)
    (opened : outcome (ready options bot incoming) world.storage = (.ok (session, begun), reached))
    (serves : reached.Serves) (starts : StartsInBlock reached.findBlock bot.id begun.transition)
    (enough : ((2 * (reached.store.cardCount + reached.store.blocks.length) : Nat) : Int) <
      options.maxSteps) :
    (FailsAtLimit carry options bot incoming world ↔
      Endless reached.findBlock begun.context begun.transition) ∧
    (Endless reached.findBlock begun.context begun.transition ↔
      ¬ ∃ trail last, Walk reached.findBlock begun.context begun.transition trail last ∧ last.Stops) ∧
    (∀ failure, FailsWith carry options bot incoming world failure → failure.isLimit = true →
      ∃ blockId steps, failure = .blockRepeated blockId steps) ∧
    ∀ trail left block, Spends reached.findBlock begun.context options.budget begun.transition trail
        left (.goto (.card block 0)) → block.id ∉ entries trail →
      ∃ paid, left.charge (some block.id) = .ok paid := by
  have finds := reached.findsIn
  have inside := starts.inside finds.faithful
  have fresh : options.budget.visited = [] := rfl
  have suffice : begun.transition.ahead reached.store.blocks [] < options.budget.remaining := by
    have ahead := inside.ahead_le finds
    rw [allDue_nil] at ahead
    rw [Store.cardCount] at enough
    rw [options.budget_remaining]
    omega
  refine ⟨?_, endless_iff_never_stops finds serves.answers inside, ?_, ?_⟩
  · rw [failsAtLimit_iff carry opened]
    exact Plan.limited_iff_endless finds serves.answers inside fresh suffice
  · intro failure fails limit
    have ending := (failsWith_iff carry opened limit).mp fails
    exact (Plan.repeats finds serves.answers inside fresh suffice ending).2
  · intro trail left block spends new
    cases charged : left.charge (some block.id) with
    | ok paid => exact ⟨paid, rfl⟩
    | error failure =>
      obtain ⟨blockId, enters, again, _⟩ := spends.repeats finds inside fresh suffice charged
      cases enters
      exact absurd again new

def detour (id blockId : String) : Block where
  id := id
  botId := "bot"
  cards := [⟨none, .goToBlock blockId⟩]
  triggers := [id]
  createdAt := ⟨0, none⟩

def circling : World Unit where
  storage :=
    { store := .memory { blocks := [detour "there" "back", detour "back" "there"] }
      source := { micros := 0 } }
  gateway := { name := "test", medium := () }

def setOut : Incoming where
  senderId := "ada"
  text := "there"

def circled : Storage := (outcome (ready {} { id := "bot" } setOut) circling.storage).2

theorem circling_ready :
    ∃ session, outcome (ready {} { id := "bot" } setOut) circling.storage =
      (.ok (session, { mode := .block, transition := (detour "there" "back").begin, context := [] }),
        circled) := ⟨_, rfl⟩

theorem circle_is_found :
    circled.store.blocks = [detour "there" "back", detour "back" "there"] ∧
      FailsAtLimit (fun _ _ _ medium => { medium }) {} { id := "bot" } setOut circling := by
  have blocks : circled.store.blocks = [detour "there" "back", detour "back" "there"] := rfl
  have serves : circled.Serves := ⟨by decide, rfl, trivial⟩
  obtain ⟨session, opened⟩ := circling_ready
  have there : circled.findBlock "bot" "there" = .ok (some (detour "there" "back")) := rfl
  have back : circled.findBlock "bot" "back" = .ok (some (detour "back" "there")) := rfl
  have enough : ((2 * (circled.store.cardCount + circled.store.blocks.length) : Nat) : Int) <
      ({} : Options).maxSteps := by
    rw [Store.cardCount, blocks]
    decide
  have circle := circles_are_found (fun _ _ _ medium => { medium }) opened serves (.fresh there) enough
  refine ⟨blocks, circle.1.mpr ?_⟩
  have onward (id blockId : String)
      (found : circled.findBlock "bot" blockId = .ok (some (detour blockId id))) :
      Plan.step circled.findBlock [] (.card (detour id blockId) 0) =
        .ok { next := (detour blockId id).begin } := by
    have jumps : (detour id blockId).Does circled.findBlock [] 0 { next := (detour blockId id).begin } :=
      .jumps rfl rfl found rfl
    exact Block.step_of_does jumps
  have round : Walk circled.findBlock [] (detour "there" "back").begin
      [⟨_, _⟩, ⟨_, _⟩] (detour "there" "back").begin :=
    .step (onward "there" "back" back) (.step (onward "back" "there" there) (.rest _))
  exact round.endless_of_loop (by decide)

end Turn

/-! ### What a turn is charged for -/

/-- A step that runs a card, and does not just find that the cards are over. -/
def Taken.runsCard (taken : Taken) : Bool :=
  match taken.place with
  | .card block index => (block.card? index).isSome
  | .node .. => false

def cardsRun (trail : List Taken) : Nat := trail.countP (·.runsCard)

/-- Some step finds that the cards are over. -/
def runsPast (trail : List Taken) : Bool := trail.any (!·.runsCard)

@[simp] theorem cardsRun_cons (taken : Taken) (trail : List Taken) :
    cardsRun (taken :: trail) = cardsRun trail + if taken.runsCard then 1 else 0 := List.countP_cons

@[simp] theorem runsPast_cons (taken : Taken) (trail : List Taken) :
    runsPast (taken :: trail) = (!taken.runsCard || runsPast trail) := List.any_cons

/-- Only the last step of a walk can find that the cards are over. -/
theorem Walk.length_eq {find : FindBlock} {context : Context} {botId : String} {blocks : List Block}
    {start last : Transition} {trail : List Taken} (finds : find.FindsIn blocks)
    (walk : Walk find context start trail last) (inside : start.Inside find botId) :
    trail.length = cardsRun trail + if runsPast trail then 1 else 0 := by
  induction walk with
  | rest => rfl
  | @step place taken trail last stepped onward ih =>
    cases place with
    | node flow node => exact inside.elim
    | card block index =>
      have does := Block.does_of_step stepped
      have rest := ih (does.inside finds.faithful inside)
      rw [List.length_cons, cardsRun_cons, runsPast_cons]
      cases at_ : block.card? index with
      | some card =>
        have runs : Taken.runsCard ⟨.card block index, taken⟩ = true := by
          simp only [Taken.runsCard, at_, Option.isSome_some]
        simp only [runs, Bool.not_true, Bool.false_or, if_true]
        omega
      | none =>
        have idle : Taken.runsCard ⟨.card block index, taken⟩ = false := by
          simp only [Taken.runsCard, at_, Option.isSome_none]
        have ended : trail = [] := by
          cases does with
          | past =>
            cases onward
            rfl
          | shows there | asks there | jumps there | strays there => cases at_.symm.trans there
        subst ended
        simp only [idle, Bool.not_false, Bool.true_or, if_true, Bool.false_eq_true, if_false]
        rfl

namespace Turn

variable {σ : Type} {options : Options} {bot : Bot} {incoming : Incoming} {world : World σ}
  {session : Session} {begun : Start} {reached : Storage}

/-- A turn that would enter no block twice is out of steps exactly when the cards that it would run,
and the end of a block if it runs past one, are more than the steps that it may take. -/
theorem ends_of_blocks_are_charged (carry : Carrier σ)
    (opened : outcome (ready options bot incoming) world.storage = (.ok (session, begun), reached))
    (starts : StartsInBlock reached.findBlock bot.id begun.transition) {trail : List Taken}
    {last : Transition} (walk : Walk reached.findBlock begun.context begun.transition trail last)
    (stops : last.Stops) (once : (entries trail).Nodup) :
    FailsAtLimit carry options bot incoming world ↔
      options.maxSteps.toNat < cardsRun trail + if runsPast trail then 1 else 0 := by
  have finds := reached.findsIn
  have length := walk.length_eq finds (starts.inside finds.faithful)
  rw [failsAtLimit_iff carry opened, ← length, ← options.budget_remaining]
  exact walk.limited_iff stops once rfl

def hello : Block where
  id := "hi"
  botId := "bot"
  cards := [⟨none, .text "Hello!"⟩]
  triggers := ["hi"]
  createdAt := ⟨0, none⟩

def terse : World Unit where
  storage := { store := .memory { blocks := [hello] }, source := { micros := 0 } }
  gateway := { name := "test", medium := () }

def stepping (maxSteps : Int) : Options where
  maxSteps := maxSteps

def salutation : Storage :=
  (outcome (ready {} { id := "bot" } { senderId := "ada", text := "hi" }) terse.storage).2

theorem terse_ready (maxSteps : Int) :
    ∃ session, outcome (ready (stepping maxSteps) { id := "bot" } { senderId := "ada", text := "hi" })
        terse.storage =
      (.ok (session, { mode := .block, transition := .goto (.card hello 0), context := [] }),
        salutation) := ⟨_, rfl⟩

theorem terse_starts : StartsInBlock salutation.findBlock "bot" (.goto (.card hello 0)) :=
  have found : salutation.findBlock "bot" hello.id = .ok (some hello) := rfl
  .fresh found

def helloTrail : List Taken :=
  [⟨.card hello 0, { effects := (CardContent.text "Hello!").effects []
                     next := .goto (.card hello 1) }⟩,
    ⟨.card hello 1, { next := .done }⟩]

theorem hello_walk (find : FindBlock) : Walk find [] (.goto (.card hello 0)) helloTrail .done := by
  have first : hello.card? 0 = some ⟨none, .text "Hello!"⟩ := rfl
  have shows : hello.Does find [] 0 { effects := (CardContent.text "Hello!").effects []
                                      next := .goto (.card hello 1) } := .shows first rfl
  have past : hello.Does find [] 1 { next := .done } := .past (by decide)
  exact .step (Block.step_of_does shows) (.step (Block.step_of_does past) (.rest _))

theorem one_card_takes_two_steps :
    FailsAtLimit (fun _ _ _ medium => { medium }) (stepping 1) { id := "bot" }
        { senderId := "ada", text := "hi" } terse ∧
      ¬ FailsAtLimit (fun _ _ _ medium => { medium }) (stepping 2) { id := "bot" }
        { senderId := "ada", text := "hi" } terse := by
  let carry : Carrier Unit := fun _ _ _ medium => { medium }
  obtain ⟨session, one⟩ := terse_ready 1
  obtain ⟨session', two⟩ := terse_ready 2
  have walk := hello_walk salutation.findBlock
  have once : (entries helloTrail).Nodup := by decide
  have first := ends_of_blocks_are_charged carry one terse_starts walk trivial once
  have second := ends_of_blocks_are_charged carry two terse_starts walk trivial once
  refine ⟨first.mpr ?_, second.not.mpr ?_⟩
  · decide
  · decide

/-- A turn that runs one card, and may run one, is out of steps. -/
theorem one_card_is_too_many :
    ¬ ∀ (carry : Carrier Unit) (options : Options) (bot : Bot) (incoming : Incoming)
        (world : World Unit) (session : Session) (begun : Start) (reached : Storage)
        (trail : List Taken) (last : Transition),
      outcome (ready options bot incoming) world.storage = (.ok (session, begun), reached) →
      reached.Serves → StartsInBlock reached.findBlock bot.id begun.transition →
      1 ≤ options.maxSteps → Walk reached.findBlock begun.context begun.transition trail last →
      last.Stops → (entries trail).Nodup → (cardsRun trail : Int) ≤ options.maxSteps →
        ¬ FailsAtLimit carry options bot incoming world := by
  intro paysPerCard
  obtain ⟨session, opened⟩ := terse_ready 1
  have serves : salutation.Serves := ⟨by decide, rfl, trivial⟩
  have walk := hello_walk salutation.findBlock
  have once : (entries helloTrail).Nodup := by decide
  have paid : (cardsRun helloTrail : Int) ≤ (stepping 1).maxSteps := by decide
  have fails : FailsAtLimit (fun _ _ _ medium => { medium }) (stepping 1) { id := "bot" }
      { senderId := "ada", text := "hi" } terse := by
    rw [failsAtLimit_iff _ opened]
    exact (walk.limited_iff trivial once rfl).mpr (by decide)
  exact paysPerCard _ _ _ _ _ _ _ _ _ _ opened serves terse_starts (by decide) walk trivial once paid
    fails

end Turn

end Parley
