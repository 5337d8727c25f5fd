import Mathlib
import Parley.Proofs.Engine.Readings
import Parley.Proofs.Storage.Content
import Parley.Proofs.Turn.Phases

/-!
What a turn in a block performs: the cards as they are read, in order, and nothing else.
-/

namespace Parley.Turn

/-- A plan in valid blocks that keeps within its budget is the one thing that can be read of the cards.
Exactly this is shown and waited for, and the session is parked on the card that asks, or nowhere. -/
theorem cards_are_performed_as_read {storage : Storage} (serves : storage.Serves) (context : Context)
    (budget : Budget) (block : Block) (index : Int)
    (unlimited : ¬ (Plan.run storage.findBlock context budget (.goto (.card block index))).Limited) :
    let plan := Plan.run storage.findBlock context budget (.goto (.card block index))
    (∀ effects ending, block.Reads storage.findBlock context index effects ending ↔
      effects = plan.effects ∧ ending = plan.ending) ∧
    (∀ {σ : Type} (carry : Carrier σ) (options : Options) (bot : Bot) (recipientId : String)
      (world : World σ), ∃ made, Performs bot recipientId (plan.effects.flatMap (·.shown))
        (plan.effects.flatMap (·.naps options)) made world
        ((performAll carry options bot recipientId plan.effects).run world).2) ∧
    ∀ (session : Session) (start : Start), start.mode = .block →
      (plan.ending = .finished →
        park session start plan = Storage.saveSession (session.atBlock none 0 start.context)) ∧
      ∀ asked place, plan.ending = .parked (.card asked place) →
        park session start plan =
          Storage.saveSession (session.atBlock (some asked.id) place start.context) := by
  intro plan
  refine ⟨fun effects ending => ?_, fun carry options bot recipientId world => ?_,
    fun session start mode => ⟨fun finished => ?_, fun asked place parked => ?_⟩⟩
  · rw [Plan.reads_iff serves.findBlock_ok unlimited]
    constructor
    · intro run
      have same : plan = { effects, ending } := run
      rw [same]
      exact ⟨rfl, rfl⟩
    · rintro ⟨rfl, rfl⟩
      rfl
  · obtain ⟨made, _, performs⟩ :=
      performAll_performs carry bot recipientId options plan.effects world
    exact ⟨made, performs⟩
  · rw [park, finished]
    dsimp only
    rw [commit_eq, mode]
    rfl
  · rw [park, parked]
    dsimp only
    rw [commit_eq]
    rfl

def welcoming : Block where
  id := "welcome"
  botId := "bot"
  cards := [⟨none, .text "Hello \x7b\x7bname\x7d\x7d!"⟩, ⟨none, .goToBlock "ask"⟩,
    ⟨none, .text "Goodbye!"⟩]
  createdAt := ⟨0, none⟩

def asking : Block where
  id := "ask"
  botId := "bot"
  cards := [⟨none, .delay { seconds := 1 }⟩, ⟨none, .userInput "Where do you live?" "city" none⟩]
  createdAt := ⟨0, none⟩

def receptive : Storage where
  store := .memory { blocks := [welcoming, asking] }
  source := { micros := 0 }

theorem welcome_is_performed_as_read :
    Plan.run receptive.findBlock [("name", "Ada")] {} (.goto (.card welcoming 0)) =
      { effects := [.send (.text "Hello Ada!"), .wait { seconds := 1 },
          .send (.text "Where do you live?")]
        ending := .parked (.card asking 1) } := by
  have serves : receptive.Serves := ⟨by decide, rfl, trivial⟩
  have found : receptive.findBlock "bot" "ask" = .ok (some asking) := rfl
  have greets : welcoming.Does receptive.findBlock [("name", "Ada")] 0 _ := .shows rfl rfl
  have jumps : welcoming.Does receptive.findBlock [("name", "Ada")] 1 _ := .jumps rfl rfl found rfl
  have waits : asking.Does receptive.findBlock [("name", "Ada")] 0 _ := .shows rfl rfl
  have asks : asking.Does receptive.findBlock [("name", "Ada")] 1 _ := .asks rfl rfl
  have walk : Walk receptive.findBlock [("name", "Ada")] (.goto (.card welcoming 0)) _ _ :=
    .step (Block.step_of_does greets) (.step (Block.step_of_does jumps)
      (.step (Block.step_of_does waits) (.step (Block.step_of_does asks) (.rest _))))
  have unlimited : ¬ (Plan.run receptive.findBlock [("name", "Ada")] {}
      (.goto (.card welcoming 0))).Limited := by
    rw [walk.limited_iff trivial (by decide) rfl]
    decide
  have reads : welcoming.Reads receptive.findBlock [("name", "Ada")] 0 _ _ :=
    .shows rfl rfl (.jumps rfl rfl found rfl (.shows rfl rfl (.asks rfl rfl)))
  obtain ⟨reading, _⟩ := cards_are_performed_as_read serves [("name", "Ada")] {} welcoming 0 unlimited
  obtain ⟨effects, ending⟩ := (reading _ _).mp reads
  have ada : Context.fill [("name", "Ada")] "Hello {{name}}!" = "Hello Ada!" := by cbv
  have asked : Context.fill [("name", "Ada")] "Where do you live?" = "Where do you live?" := by cbv
  have whole : Plan.run receptive.findBlock [("name", "Ada")] {} (.goto (.card welcoming 0)) = ⟨_, _⟩ :=
    rfl
  rw [whole, ← effects, ← ending]
  simp only [CardContent.effects, ada, asked]
  rfl

end Parley.Turn
