import Mathlib
import Parley.Proofs.Storage.Chronicles
import Parley.Proofs.Text.Containment
import Parley.Proofs.Turn.Resolving

/-!
Which of several matches wins: of the blocks of a bot with a trigger in the message, and likewise of its
flows, the one that was saved first, however often and wherever in between it was saved again.
-/

namespace Parley

namespace Trigger

/-- One of the triggers is not blank and is in the message, when both are normalized. -/
def Occurs (message : String) (triggers : List String) : Prop :=
  ∃ trigger ∈ triggers, Speaks trigger ∧ normalize trigger <:+: normalize message

theorem matchesAny_iff {message : String} {triggers : List String} :
    matchesAny (normalize message) triggers = true ↔ Occurs message triggers := by
  simp only [matchesAny, List.any_eq_true, matchesTrigger_iff, Occurs]

end Trigger

namespace Resolution

open Table (Picks)

variable {start storage reached : Storage} {history : List Content}

def ofFlow (reason : Reason) (flow : Flow) : Resolution := { target := .flow flow, reason }

theorem ofFlows_eq (message : String) (flows : List Flow) :
    ofFlows message flows =
      ((Trigger.firstMatch Flow.triggers message flows).map (ofFlow .trigger) <|>
        (flows.find? (·.isDefault)).map (ofFlow .defaultFlow)) := by
  rw [ofFlows]
  cases Trigger.firstMatch Flow.triggers message flows <;> rfl

theorem listFlows_of_unanswered (works : storage.Works) {options : Options} {botId : String}
    {answer : Except Failure (Option Block)}
    (run : outcome (Bootstrap.defaultAnswer options botId) storage = (answer, reached)) :
    reached.Works ∧ reached.store.listFlows botId true = storage.store.listFlows botId true := by
  have same := ((Touches.defaultAnswer options botId).apply run).same
  have works' := same.works works
  have listed := (Respects.listFlows (by decide) botId true storage reached same).1
  rw [works.listFlows, works'.listFlows] at listed
  exact ⟨works', (Except.ok.inj listed).symm⟩

/-- In both stores the match whose id was saved first wins, with the content that was saved last. This
holds of the enabled blocks of a bot for a message that names none by a payload, and of its active flows
when there is no default answer; where no flow matches, the first default flow is taken. -/
theorem earliest_match_wins (works : start.Works) (bare : start.store.Bare)
    (agree : history.Pairwise Content.Agrees) :
    (history.length < 2 ^ 63 →
      ∃ storage, outcome (Content.saveAll history) start = (.ok (), storage)) ∧
    ∀ storage, outcome (Content.saveAll history) start = (.ok (), storage) →
      ∀ (session : Session) (message : String), session.inBlock = false →
        ((outcome (ofPayload session.botId message) storage).1 = .ok none →
          ∃ found,
            Picks Block.undated Block.id (Content.blocks history)
              (fun block => block.botId = session.botId ∧ block.isEnabled ∧
                Trigger.Occurs message block.triggers) found ∧
            outcome (explicit session message) storage = (.ok (found.map byTrigger), storage)) ∧
        ∀ options reached,
          outcome (Bootstrap.defaultAnswer options session.botId) storage = (.ok none, reached) →
          ∃ found default,
            Picks Flow.undated Flow.id (Content.flows history)
              (fun flow => flow.botId = session.botId ∧ flow.isActive ∧
                Trigger.Occurs message flow.triggers) found ∧
            Picks Flow.undated Flow.id (Content.flows history)
              (fun flow => flow.botId = session.botId ∧ flow.isActive ∧ flow.isDefault) default ∧
            outcome (fallback options session message) storage =
              (.ok (found.map (ofFlow .trigger) <|> default.map (ofFlow .defaultFlow)), reached) := by
  refine ⟨fun few => Content.saveAll_goes works bare.keeps agree few, ?_⟩
  intro storage saved session message idle
  obtain ⟨works, keeps⟩ := Content.saveAll_keeps works bare.keeps agree saved
  rw [List.nil_append] at keeps
  -- the stores differ in times of creation only, which no trigger and no flag depends on
  constructor
  · intro unnamed
    rw [outcome_ofPayload] at unnamed
    have picked := keeps.picks_block session.botId
      (fun block => Trigger.matchesAny (Trigger.normalize message) block.triggers)
      fun block other same => (congrArg (Trigger.matchesAny _ ∘ Block.triggers) same :)
    simp only [Trigger.matchesAny_iff] at picked
    exact ⟨_, picked, outcome_explicit works idle unnamed⟩
  · intro options reached unanswered
    obtain ⟨works', flows⟩ := listFlows_of_unanswered works unanswered
    have fallen := outcome_fallback_of_none idle works' unanswered message
    rw [flows, ofFlows_eq] at fallen
    have picked := keeps.picks_flow session.botId
      (fun flow => Trigger.matchesAny (Trigger.normalize message) flow.triggers)
      fun flow other same => (congrArg (Trigger.matchesAny _ ∘ Flow.triggers) same :)
    simp only [Trigger.matchesAny_iff] at picked
    have defaults := keeps.picks_flow session.botId (·.isDefault)
      fun flow other same => (congrArg Flow.isDefault same :)
    exact ⟨_, _, picked, defaults, fallen⟩

def card (id botId trigger : String) (isEnabled : Bool) : Block where
  id := id
  botId := botId
  name := "Card"
  triggers := [trigger]
  isEnabled := isEnabled
  createdAt := ⟨0, none⟩

def tour (id botId : String) : Flow where
  id := id
  botId := botId
  triggers := [" Menu "]
  createdAt := ⟨0, none⟩

/-- Blocks and flows of two bots. The first block of the shop is switched off, and saved again with
another trigger when it is switched on. -/
def menus : List Content :=
  [.block (card "menu" "shop" "start" false), .block (card "board" "bar" "menu" true),
    .block (card "help" "shop" "menu" true), .flow (tour "round" "bar"), .flow (tour "tour" "shop"),
    .block (card "menu" "shop" "MENU" true), .flow (tour "detour" "shop")]

def empty : Storage where
  store := .memory {}
  source := { micros := 0 }

def shelves : Storage where
  store := .memory
    { blocks := [card "menu" "shop" "MENU" true, card "board" "bar" "menu" true,
        card "help" "shop" "menu" true]
      flows := [tour "round" "bar", tour "tour" "shop", tour "detour" "shop"] }
  source := { micros := 0 }

def shopper : Session where
  id := "s1"
  botId := "shop"
  senderId := "u1"

/-- The block that was saved again comes before a later one that had the trigger all the time. -/
theorem resaved_menu_wins :
    (Picks Block.undated Block.id (Content.blocks menus)
        (fun block => block.botId = "shop" ∧ block.isEnabled ∧
          Trigger.Occurs "The menu!" block.triggers) (some (card "menu" "shop" "MENU" true)) ∧
      outcome (explicit shopper "The menu!") shelves =
        (.ok (some (byTrigger (card "menu" "shop" "MENU" true))), shelves)) ∧
    Picks Flow.undated Flow.id (Content.flows menus)
        (fun flow => flow.botId = "shop" ∧ flow.isActive ∧
          Trigger.Occurs "The menu!" flow.triggers) (some (tour "tour" "shop")) ∧
      outcome (fallback { bootstrap := false } shopper "The menu!") shelves =
        (.ok (some (ofFlow .trigger (tour "tour" "shop"))), shelves) := by
  have bare : empty.store.Bare := ⟨rfl, rfl⟩
  have agree : menus.Pairwise Content.Agrees := by
    simp [menus, card, tour, Content.Agrees]
  have saved : outcome (Content.saveAll menus) empty = (.ok (), shelves) := by cbv
  have idle : shopper.inBlock = false := rfl
  have wins := (earliest_match_wins ⟨rfl, rfl⟩ bare agree).2 shelves saved shopper "The menu!" idle
  constructor
  · have unnamed : named? "shop" "The menu!" shelves = .ok none := rfl
    have called : Trigger.firstMatch Block.triggers "The menu!"
        (shelves.store.listBlocks shopper.botId true) = some (card "menu" "shop" "MENU" true) := by
      decide +kernel
    have answered := outcome_explicit ⟨rfl, rfl⟩ idle unnamed
    rw [called] at answered
    obtain ⟨found, picked, answered'⟩ := wins.1 (by rw [outcome_ofPayload]; exact unnamed)
    have same := Except.ok.inj (congrArg Prod.fst (answered'.symm.trans answered))
    obtain ⟨block, rfl, target⟩ := Option.map_eq_some_iff.mp same
    cases target
    exact ⟨picked, answered⟩
  · have unanswered : outcome (Bootstrap.defaultAnswer { bootstrap := false } "shop") shelves =
        (.ok none, shelves) := rfl
    have toured : ofFlows "The menu!" (shelves.store.listFlows shopper.botId true) =
        some (ofFlow .trigger (tour "tour" "shop")) := by
      decide +kernel
    have fallen := outcome_fallback_of_none idle ⟨rfl, rfl⟩ unanswered "The menu!"
    rw [toured] at fallen
    obtain ⟨found, default, picked, _, fallen'⟩ := wins.2 _ shelves unanswered
    have same := Except.ok.inj (congrArg Prod.fst (fallen'.symm.trans fallen))
    cases found with
    | none =>
      obtain ⟨flow, _, target⟩ := Option.map_eq_some_iff.mp same
      cases target
    | some flow =>
      cases same
      exact ⟨picked, fallen⟩

end Resolution

end Parley
