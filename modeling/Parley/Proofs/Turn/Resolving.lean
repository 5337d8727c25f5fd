import Parley.Proofs.Storage.Content
import Parley.Proofs.Storage.Listings
import Parley.Proofs.Text.Normalizing
import Parley.Proofs.Turn.Choosing

/-!
What a message resolves to, told by the content of the store: the block that its payload names, the
first listed block or flow with a trigger in it, the default flow.
-/

namespace Parley

namespace Resolution

variable {storage : Storage} {session : Session} {message botId : String} {block : Block}

/-! ### Payloads -/

/-- The enabled block that a message names by its payload. -/
def named? (botId message : String) (storage : Storage) : Except Failure (Option Block) :=
  match nonEmpty (payloadTarget? message) with
  | some blockId => (storage.findBlock botId blockId).map (·.filter (·.isEnabled))
  | none => .ok none

theorem outcome_ofPayload (botId message : String) (storage : Storage) :
    outcome (ofPayload botId message) storage = (named? botId message storage, storage) := by
  rw [ofPayload, named?]
  cases nonEmpty (payloadTarget? message) with
  | none => rfl
  | some blockId =>
    dsimp only
    rw [outcome_bind, Storage.outcome_getBlock]
    cases storage.findBlock botId blockId <;> rfl

/-- A message resolves to a block by its payload if it names that block, and the session is not in the
middle of one. -/
theorem explicit_payload_iff :
    outcome (explicit session message) storage = (.ok (some ⟨.block block, .payload⟩), storage) ↔
      session.inBlock = false ∧ named? session.botId message storage = .ok (some block) := by
  rw [explicit]
  cases inside : session.inBlock with
  | true => simp
  | false =>
    rw [if_neg Bool.false_ne_true, outcome_bind, outcome_ofPayload]
    cases named? session.botId message storage with
    | error failure => simp
    | ok named =>
      cases named with
      | some other => simp
      | none =>
        refine iff_of_false (fun resolved => ?_) (by simp)
        obtain ⟨triggered, _, _, answer⟩ := outcome_bind_ok resolved
        cases triggered <;> cases answer

/-! ### Triggers -/

theorem outcome_ofTrigger (works : storage.Works) (botId message : String) :
    outcome (ofTrigger botId message) storage =
      (.ok (Trigger.firstMatch Block.triggers message (storage.store.listBlocks botId true)),
        storage) := by
  rw [ofTrigger, outcome_bind_of_ok (works.listBlocks botId true)]
  rfl

def byTrigger (block : Block) : Resolution := { target := .block block, reason := .trigger }

theorem outcome_explicit (works : storage.Works) (idle : session.inBlock = false)
    (unnamed : named? session.botId message storage = .ok none) :
    outcome (explicit session message) storage =
      (.ok ((Trigger.firstMatch Block.triggers message
        (storage.store.listBlocks session.botId true)).map byTrigger), storage) := by
  rw [explicit, if_neg (Bool.eq_false_iff.mp idle), outcome_bind, outcome_ofPayload, unnamed]
  dsimp only
  rw [outcome_bind_of_ok (outcome_ofTrigger works session.botId message)]
  cases Trigger.firstMatch Block.triggers message (storage.store.listBlocks session.botId true) <;> rfl

/-! ### What is resolved without being asked for -/

variable {options : Options}

theorem outcome_fallback_of_some (idle : session.inBlock = false) {reached : Storage}
    (answered : outcome (Bootstrap.defaultAnswer options session.botId) storage =
      (.ok (some block), reached)) (message : String) :
    outcome (fallback options session message) storage =
      (.ok (some ⟨.block block, .defaultAnswer⟩), reached) := by
  rw [fallback, if_neg (Bool.eq_false_iff.mp idle), outcome_bind_of_ok answered]
  rfl

theorem outcome_fallback_of_error (idle : session.inBlock = false) {reached : Storage}
    {failure : Failure}
    (failed : outcome (Bootstrap.defaultAnswer options session.botId) storage =
      (.error failure, reached)) (message : String) :
    outcome (fallback options session message) storage = (.error failure, reached) := by
  rw [fallback, if_neg (Bool.eq_false_iff.mp idle), outcome_bind_of_error failed]

theorem outcome_fallback_of_none (idle : session.inBlock = false) {reached : Storage}
    (works : reached.Works)
    (unanswered : outcome (Bootstrap.defaultAnswer options session.botId) storage =
      (.ok none, reached)) (message : String) :
    outcome (fallback options session message) storage =
      (.ok (ofFlows message (reached.store.listFlows session.botId true)), reached) := by
  rw [fallback, if_neg (Bool.eq_false_iff.mp idle), outcome_bind_of_ok unanswered]
  dsimp only
  rw [outcome_bind_of_ok (works.listFlows session.botId true)]
  rfl

theorem firstMatch_eq_none_iff {α : Type} {triggers : α → List String} {message : String}
    {candidates : List α} :
    Trigger.firstMatch triggers message candidates = none ↔
      ∀ candidate ∈ candidates,
        Trigger.matchesAny (Trigger.normalize message) (triggers candidate) = false := by
  rw [Trigger.firstMatch, List.find?_eq_none]
  simp only [Bool.not_eq_true]

theorem ofFlows_eq_none_iff {message : String} {flows : List Flow} :
    ofFlows message flows = none ↔
      (∀ flow ∈ flows, Trigger.matchesAny (Trigger.normalize message) flow.triggers = false) ∧
        ∀ flow ∈ flows, flow.isDefault = false := by
  rw [← firstMatch_eq_none_iff, ofFlows]
  cases Trigger.firstMatch Flow.triggers message flows with
  | some flow => simp
  | none => simp

end Resolution

end Parley

/-! ## Payloads of buttons

The payloads of buttons that lead to a block. Sent back as a message, such a payload starts its block,
unless the id of the block ends in white space: the message is trimmed and the id is not.
-/

namespace Parley.Resolution

open Text

variable {storage : Storage} {session : Session} {block : Block} {blockId : String}

/-- A payload is read as the id that it was made from, without the white space at its end. -/
theorem payloadTarget?_blockPayload (blockId : String) :
    payloadTarget? (blockPayload blockId) = some (String.ofList (trimEnd blockId.toList)) := by
  have letters : blockPayloadStart.toList = ['B', 'L', 'O', 'C', 'K', ':'] := by decide
  have solid : Trimmed blockPayloadStart.toList := by
    rw [letters]
    constructor
    · intro c first
      cases first
      decide
    · intro c last
      cases last
      decide
  have trimmed := trim_around solid (by decide) [] blockId.toList
  rw [List.nil_append, trimStart_nil, List.nil_append] at trimmed
  have starts : blockPayloadStart.toList.isPrefixOf
      (blockPayloadStart.toList ++ trimEnd blockId.toList) = true :=
    List.isPrefixOf_iff_prefix.mpr (List.prefix_append _ _)
  rw [payloadTarget?, blockPayload, String.toList_append, trimmed, if_pos starts, List.drop_left]

theorem named?_blockPayload_iff (found : storage.findBlock session.botId block.id = .ok (some block))
    (named : block.id ≠ "") (enabled : block.isEnabled = true) :
    named? session.botId (blockPayload block.id) storage = .ok (some block) ↔
      ∀ c ∈ block.id.toList.getLast?, isBlank c = false := by
  rw [named?, payloadTarget?_blockPayload, ← trimEnd_eq_self_iff]
  constructor
  · intro names
    split at names
    · rename_i blockId target
      -- what is found has the id that was read, so that is the id as it was written
      cases look : storage.findBlock session.botId blockId with
      | error failure =>
        rw [look] at names
        cases names
      | ok answer =>
        rw [look] at names
        have hit : answer.filter (·.isEnabled) = some block := Except.ok.inj names
        rw [(Option.filter_eq_some_iff.mp hit).1] at look
        have same := (Storage.findBlock_faithful storage _ _ _ look).1
        have read := Option.some.inj (Option.filter_eq_some_iff.mp target).1
        have whole := congrArg String.toList (read.trans same.symm)
        rwa [String.toList_ofList] at whole
    · cases names
  · intro whole
    have target : nonEmpty (some block.id) = some block.id := by
      rw [nonEmpty, Option.filter_some, if_pos (decide_eq_true named)]
    rw [whole, String.ofList_toList, target]
    dsimp only
    rw [found, Except.map, Option.filter_some, if_pos enabled]

/-- Buttons and quick replies that refer to a block send the same payload. Sent back to a session that
is not in a block, it resolves to just this block exactly if the id does not end in white space. -/
theorem payloads_start_blocks_iff (idle : session.inBlock = false)
    (found : storage.findBlock session.botId block.id = .ok (some block)) (named : block.id ≠ "")
    (enabled : block.isEnabled = true) :
    (∀ button : CardButton, button.kind = .block → button.blockId = some block.id →
      (OutboundButton.ofCardButton button).payload = some (blockPayload block.id)) ∧
    (∀ reply : BlockReply, reply.blockId = some block.id →
      reply.outbound.payload = blockPayload block.id) ∧
    (outcome (explicit session (blockPayload block.id)) storage =
        (.ok (some ⟨.block block, .payload⟩), storage) ↔
      ∀ c ∈ block.id.toList.getLast?, isBlank c = false) := by
  have refers : nonEmpty (some block.id) = some block.id := by
    rw [nonEmpty, Option.filter_some, if_pos (decide_eq_true named)]
  refine ⟨fun button kind leads => ?_, fun reply leads => ?_, ?_⟩
  · rw [OutboundButton.ofCardButton, kind, leads, refers]
  · rw [BlockReply.outbound, leads, refers]
    rfl
  · rw [explicit_payload_iff, named?_blockPayload_iff found named enabled]
    exact and_iff_right idle

def served (blockId : String) : Block where
  id := blockId
  botId := "bot-1"
  name := "Menu"
  createdAt := ⟨0, none⟩

/-- Two blocks whose ids differ in white space only. -/
def serving : Storage where
  store := .memory { blocks := [served "menu", served "menu "] }
  source := { micros := 0 }

def guest : Session where
  id := "s1"
  botId := "bot-1"
  senderId := "u1"

/-- A button for the first block starts it. -/
theorem menu_is_started :
    outcome (explicit guest (blockPayload "menu")) serving =
      (.ok (some ⟨.block (served "menu"), .payload⟩), serving) := by
  have starts := payloads_start_blocks_iff (rfl : guest.inBlock = false)
    (rfl : serving.findBlock guest.botId (served "menu").id = .ok (some (served "menu")))
    (by decide) rfl
  have ends : (served "menu").id.toList.getLast? = some 'u' := by decide
  refine starts.2.2.mpr fun c last => ?_
  cases ends.symm.trans last
  decide

/-- A button for the second block starts the first one. -/
theorem menu_is_mistaken :
    serving.findBlock guest.botId "menu " = .ok (some (served "menu ")) ∧
    (OutboundButton.ofCardButton
      { title := "Menu", kind := .block, blockId := some "menu " }).payload = some "BLOCK:menu " ∧
    BlockReply.outbound { title := "Menu", blockId := some "menu " } = ⟨"Menu", "BLOCK:menu "⟩ ∧
    outcome (explicit guest "BLOCK:menu ") serving =
      (.ok (some ⟨.block (served "menu"), .payload⟩), serving) :=
  ⟨rfl, rfl, rfl, rfl⟩

end Parley.Resolution
