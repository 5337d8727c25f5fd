import Parley.Proofs.Storage.Parts
import Parley.Proofs.Turn.Choosing
import Parley.Proofs.Turn.Making
import Parley.Proofs.Turn.Resolving

/-!
When a bot has no answer to a message, and what a turn then comes to.
-/

/-! ## Turns with nothing to run

No request fails for lack of something to run, only the start of a turn whose message resolves to
nothing.
-/

namespace Parley

/-- An action that never fails for lack of something to run. -/
def Sustained {α : Type} (action : StoreM α) : Prop :=
  ∀ storage botId senderId, (outcome action storage).1 ≠ .error (.nothingToRun botId senderId)

namespace Sustained

variable {α β : Type}

theorem pure (value : α) : Sustained (Pure.pure value : StoreM α) :=
  fun _ _ _ failed => by cases failed

theorem bind {action : StoreM α} {next : α → StoreM β} (first : Sustained action)
    (rest : ∀ value, Sustained (next value)) : Sustained (action >>= next) := by
  intro storage botId senderId failed
  rcases outcome_bind_error (Prod.ext failed rfl) with early | ⟨value, reached, _, late⟩
  · exact first storage botId senderId (congrArg Prod.fst early)
  · exact rest value reached botId senderId (congrArg Prod.fst late)

theorem ofExcept {answer : Except Failure α}
    (other : ∀ botId senderId, answer ≠ .error (.nothingToRun botId senderId)) :
    Sustained (Storage.ofExcept answer) := by
  intro storage botId senderId failed
  rw [Storage.outcome_ofExcept] at failed
  exact other botId senderId failed

theorem request {kind : Request} {onMemory : Memory → StoreM α} {onSql : Sql → StoreM α}
    (memory : ∀ content, Sustained (onMemory content)) (sql : ∀ content, Sustained (onSql content)) :
    Sustained (Storage.request kind onMemory onSql) := by
  intro storage botId senderId failed
  rw [Storage.outcome_request_eq] at failed
  split at failed
  · cases failed
  · split at failed
    · exact memory _ _ _ _ failed
    · exact sql _ _ _ _ failed

/-! ### Requests -/

theorem getBlock (botId blockId : String) : Sustained (Storage.getBlock botId blockId) := by
  refine request (fun memory => pure _) fun sql => ofExcept fun botId senderId => ?_
  rw [Sql.block?]
  split
  · rename_i row _
    rw [BlockRow.toBlock]
    cases row.check <;> exact fun failed => by cases failed
  · exact fun failed => by cases failed

theorem getFlow (botId flowId : String) : Sustained (Storage.getFlow botId flowId) := by
  refine request (fun memory => pure _) fun sql => ofExcept fun botId senderId => ?_
  rw [Sql.flow?]
  split
  · rename_i row _
    rw [FlowRow.toFlow]
    cases row.check <;> exact fun failed => by cases failed
  · exact fun failed => by cases failed

theorem listBlocks (botId : String) (enabledOnly : Bool) :
    Sustained (Storage.listBlocks botId enabledOnly) :=
  request (fun _ => pure _) fun _ => pure _

theorem listFlows (botId : String) (activeOnly : Bool) :
    Sustained (Storage.listFlows botId activeOnly) :=
  request (fun _ => pure _) fun _ => pure _

theorem findFlagged (botId flagName : String) : Sustained (Storage.findFlagged botId flagName) := by
  intro storage owner senderId failed
  rw [Storage.outcome_findFlagged_eq] at failed
  simp only [Storage.flagged?, Memory.flagged?] at failed
  split at failed
  · cases failed
  · repeat' split at failed
    all_goals cases failed

theorem draw (action : Draw α) : Sustained (Storage.draw action) :=
  fun _ _ _ failed => by cases failed

theorem saveBlock (block : Block) : Sustained (Storage.saveBlock block) := by
  have stores (store : Store) : Sustained (modify ({ · with store := store }) : StoreM Unit) :=
    fun _ _ _ failed => by cases failed
  refine request (fun memory => stores _) fun sql => bind (ofExcept fun botId senderId => ?_)
    fun saved => stores _
  rw [Sql.saveBlock]
  split
  · exact fun failed => by cases failed
  · rw [Sql.nextSeq]
    repeat' split
    all_goals exact fun failed => by cases failed

/-! ### Resolving a message -/

theorem bootstrapStep (options : Options) (botId : String) (state : Bootstrap) :
    Sustained (Bootstrap.step options botId state) := by
  cases state with
  | findAnswer | findWelcome | findAnswerAgain created =>
    refine bind (findFlagged _ _) fun found => ?_
    cases found <;> exact pure _
  | loadAnswer blockId => exact bind (getBlock _ _) fun _ => pure _
  | saveWelcome | saveAnswer created =>
    exact bind (draw _) fun block => bind (saveBlock block) fun _ => pure _
  | finished created answer => exact pure _

theorem bootstrapRun (options : Options) (botId : String) (requests : Nat) (state : Bootstrap) :
    Sustained (Bootstrap.run options botId requests state) := by
  induction requests generalizing state with
  | zero => exact pure state
  | succ requests ih => exact bind (bootstrapStep options botId state) ih

theorem explicit (session : Session) (message : String) :
    Sustained (Resolution.explicit session message) := by
  rw [Resolution.explicit]
  split
  · exact pure _
  · have named : Sustained (Resolution.ofPayload session.botId message) := by
      rw [Resolution.ofPayload]
      split
      · exact bind (getBlock _ _) fun _ => pure _
      · exact pure _
    have triggered : Sustained (Resolution.ofTrigger session.botId message) :=
      bind (listBlocks _ _) fun _ => pure _
    refine bind named fun found => ?_
    cases found with
    | some block => exact pure _
    | none =>
      refine bind triggered fun found => ?_
      cases found <;> exact pure _

theorem fallback (options : Options) (session : Session) (message : String) :
    Sustained (Resolution.fallback options session message) := by
  rw [Resolution.fallback]
  split
  · exact pure _
  · have answer : Sustained (Bootstrap.defaultAnswer options session.botId) := by
      refine bind (bootstrapRun _ _ _ _) fun state => ?_
      cases state <;> exact pure _
    refine bind answer fun found => ?_
    cases found with
    | some block => exact pure _
    | none => exact bind (listFlows _ _) fun _ => pure _

theorem resumeOutside (session : Session) (text : String) (context : Context) :
    Sustained (Turn.resumeOutside session text context) := by
  rw [Turn.resumeOutside]
  split
  · have parked : Sustained session.parkedFlow := by
      rw [Session.parkedFlow]
      split
      · exact getFlow _ _
      · exact bind (listFlows _ _) fun _ => pure _
    refine bind parked fun found => ?_
    cases found with
    | none => exact pure _
    | some flow =>
      dsimp only
      split <;> exact pure _
  · exact pure _

theorem begin (context : Context) (target : Target) :
    Sustained (Storage.ofExcept (Turn.begin context target)) := by
  refine ofExcept fun botId senderId failed => ?_
  cases target with
  | block block => cases failed
  | flow flow =>
    unfold Turn.begin Flow.begin at failed
    cases first : flow.start? <;> simp only [first] at failed <;> cases failed

end Sustained

namespace Turn

variable {storage : Storage} {session : Session} {message : String} {context : Context}
  {options : Options}

theorem resolve_of_nothingToRun (idle : session.inBlock = false) {botId senderId : String}
    (failed : (outcome (start options session message context) storage).1 =
      .error (.nothingToRun botId senderId)) :
    (outcome (Resolution.resolve options session message) storage).1 = .ok none := by
  rw [start, if_neg (Bool.eq_false_iff.mp idle)] at failed
  rcases outcome_bind_error (Prod.ext failed rfl) with early | ⟨asked, middle, explicit, late⟩
  · exact absurd (congrArg Prod.fst early) (Sustained.explicit _ _ _ _ _)
  · have unchanged := ((Touches.explicit _ _).apply explicit).same.eq
    subst unchanged
    cases asked with
    | some resolution => exact absurd (congrArg Prod.fst late) (Sustained.begin _ _ _ _ _)
    | none =>
      rw [Resolution.resolve, outcome_bind_of_ok explicit]
      rcases outcome_bind_error late with early | ⟨resumed, later, resuming, rest⟩
      · exact absurd (congrArg Prod.fst early) (Sustained.resumeOutside _ _ _ _ _ _)
      · have unchanged := ((Touches.resumeOutside _ _ _).apply resuming).same.eq
        subst unchanged
        cases resumed with
        | some resumed => cases rest
        | none =>
          rcases outcome_bind_error rest with early | ⟨found, _, falls, last⟩
          · exact absurd (congrArg Prod.fst early) (Sustained.fallback _ _ _ _ _ _)
          · cases found with
            | some resolution => exact absurd (congrArg Prod.fst last) (Sustained.begin _ _ _ _ _)
            | none => exact congrArg Prod.fst falls

end Turn

/-! ## Messages without an answer

When a bot has no answer to a message. Of its blocks that are flagged as default answers only the first
is looked at, so one that is not enabled hides all that come after it.
-/

variable {storage : Storage} {session : Session} {message botId : String} {options : Options}
  {block : Block}

/-! ### Default answers that are stored -/

namespace Bootstrap

theorem run_of_finished (options : Options) (botId : String) (requests : Nat) (created : List Block)
    (answer : Option Block) (storage : Storage) :
    outcome (run options botId requests (.finished created answer)) storage =
      (.ok (.finished created answer), storage) := by
  induction requests with
  | zero => rfl
  | succ requests ih => exact ih

theorem outcome_defaultAnswer_of_flagged {blockId : String}
    (flagged : storage.flagged? botId answerFlag = .ok (some blockId)) :
    outcome (defaultAnswer options botId) storage =
      ((storage.findBlock botId blockId).map (·.filter (·.isEnabled)), storage) := by
  have asks : outcome (step options botId .findAnswer) storage =
      (.ok (.loadAnswer blockId), storage) := by
    rw [step, outcome_findFlagged_bind, flagged]
    rfl
  have loads : outcome (step options botId (.loadAnswer blockId)) storage =
      ((storage.findBlock botId blockId).map (.finished []), storage) := by
    rw [step, outcome_bind, Storage.outcome_getBlock]
    cases storage.findBlock botId blockId <;> rfl
  rw [defaultAnswer, maxRequests, outcome_bind, run, outcome_bind_of_ok asks,
    run, outcome_bind, loads]
  cases storage.findBlock botId blockId with
  | error failure => rfl
  | ok answer =>
    dsimp only [Except.map]
    rw [run_of_finished]
    rfl

theorem defaultAnswer_of_first (options : Options) (works : storage.Works)
    (valid : storage.store.BlocksValid) (apart : storage.store.blockIds.Nodup)
    (first : (storage.store.listBlocks botId false).find? (·.isDefaultAnswer) = some block) :
    outcome (defaultAnswer options botId) storage =
      (.ok ((some block).filter (·.isEnabled)), storage) := by
  have flagged := works.flagged?_listed valid botId
  have found := works.findBlock_listed valid apart botId block.id
  have listed : (storage.store.listBlocks botId false).find? (·.id = block.id) = some block :=
    Table.find?_of_mem (Store.listBlocks_apart apart botId) (List.mem_of_find?_eq_some first)
  rw [first] at flagged
  rw [listed] at found
  rw [outcome_defaultAnswer_of_flagged flagged, found]
  rfl

theorem flagCount_of_unlisted (works : storage.Works) (valid : storage.store.BlocksValid)
    (none : (storage.store.listBlocks botId false).find? (·.isDefaultAnswer) = none) :
    storage.store.flagCount .defaultAnswer botId = 0 := by
  have flagged := works.flagged?_listed valid botId
  rw [none] at flagged
  exact ((Storage.flagged?_eq_none_iff .defaultAnswer).mp flagged).2

theorem defaultAnswer_off (works : storage.Works) (off : options.bootstrap = false)
    (absent : storage.store.flagCount .defaultAnswer botId = 0) :
    outcome (defaultAnswer options botId) storage = (.ok none, storage) := by
  have unanswered : storage.flagged? botId answerFlag = .ok none :=
    (Storage.flagged?_eq_none_iff .defaultAnswer).mpr ⟨works.refuses .findFlagged, absent⟩
  have asks : outcome (step options botId .findAnswer) storage = (.ok (.finished [] none), storage) := by
    rw [step, outcome_findFlagged_bind, unanswered, off]
    rfl
  have ran : outcome (run options botId maxRequests .findAnswer) storage =
      (.ok (.finished [] none), storage) := by
    rw [maxRequests, run, outcome_bind_of_ok asks, run_of_finished]
  rw [defaultAnswer, outcome_bind_of_ok ran]
  rfl

end Bootstrap

/-! ### Silence -/

namespace Resolution

/-- Nothing that a bot has answers a message. -/
structure Silent (options : Options) (store : Store) (botId message : String) : Prop where
  unnamed : ∀ block ∈ store.listBlocks botId true, block.id ≠ "" →
    payloadTarget? message ≠ some block.id
  untriggered : ∀ block ∈ store.listBlocks botId true,
    Trigger.matchesAny (Trigger.normalize message) block.triggers = false
  /-- The first block that is flagged, if there is one, is not enabled. -/
  unanswered : ∀ block, (store.listBlocks botId false).find? (·.isDefaultAnswer) = some block →
    block.isEnabled = false
  unmade : (store.listBlocks botId false).find? (·.isDefaultAnswer) = none → options.bootstrap = false
  unstarted : ∀ flow ∈ store.listFlows botId true,
    Trigger.matchesAny (Trigger.normalize message) flow.triggers = false
  undefaulted : ∀ flow ∈ store.listFlows botId true, flow.isDefault = false

theorem named?_eq_none_iff (works : storage.Works) (valid : storage.store.BlocksValid)
    (apart : storage.store.blockIds.Nodup) :
    named? botId message storage = .ok none ↔
      ∀ block ∈ storage.store.listBlocks botId true, block.id ≠ "" →
        payloadTarget? message ≠ some block.id := by
  have apart' := Store.listBlocks_apart apart botId
  rw [Store.listBlocks_enabled, named?]
  constructor
  · intro none block member named target
    obtain ⟨listed, enabled⟩ := List.mem_filter.mp member
    have asked : nonEmpty (payloadTarget? message) = some block.id := by
      rw [target, nonEmpty, Option.filter_some, if_pos (decide_eq_true named)]
    rw [asked] at none
    dsimp only at none
    rw [works.findBlock_listed valid apart, Table.find?_of_mem apart' listed, Except.map,
      Option.filter_some, if_pos enabled] at none
    cases none
  · intro unnamed
    cases asked : nonEmpty (payloadTarget? message) with
    | none => rfl
    | some blockId =>
      obtain ⟨target, named⟩ := Option.filter_eq_some_iff.mp asked
      dsimp only
      rw [works.findBlock_listed valid apart, Except.map]
      cases found : (storage.store.listBlocks botId false).find? (·.id = blockId) with
      | none => rfl
      | some block =>
        have id := List.find?_some found
        have id : block.id = blockId := of_decide_eq_true id
        have listed := List.mem_of_find?_eq_some found
        rw [Option.filter_some]
        split
        · rename_i enabled
          refine absurd target (id ▸ unnamed block (List.mem_filter.mpr ⟨listed, enabled⟩) ?_)
          rw [id]
          exact of_decide_eq_true named
        · rfl

theorem named?_ok (works : storage.Works) (valid : storage.store.BlocksValid)
    (apart : storage.store.blockIds.Nodup) (botId message : String) :
    ∃ found, named? botId message storage = .ok found := by
  rw [named?]
  cases nonEmpty (payloadTarget? message) with
  | none => exact ⟨none, rfl⟩
  | some blockId =>
    dsimp only
    rw [works.findBlock_listed valid apart]
    exact ⟨_, rfl⟩

/-- How a search for something that is not asked for ends: with nothing exactly if neither a default
answer nor a flow answers, and with a failure only for lack of numbers for the default blocks. -/
theorem fallback_answers (works : storage.Works) (valid : storage.store.BlocksValid)
    (apart : storage.store.blockIds.Nodup) (idle : session.inBlock = false) :
    let first := (storage.store.listBlocks session.botId false).find? (·.isDefaultAnswer)
    let answer := (outcome (fallback options session message) storage).1
    (answer = .ok none ↔
      (∀ block, first = some block → block.isEnabled = false) ∧
      (first = none → options.bootstrap = false) ∧
      ofFlows message (storage.store.listFlows session.botId true) = none) ∧
    ∀ failure, answer = .error failure →
      options.bootstrap = true ∧ first = none ∧ ¬ storage.store.Roomy session.botId 2 := by
  dsimp only
  -- the first block that is flagged decides, and only if there is none a default answer is made up
  cases first : (storage.store.listBlocks session.botId false).find? (·.isDefaultAnswer) with
  | some block =>
    have answered := Bootstrap.defaultAnswer_of_first options works valid apart first
    rw [Option.filter_some] at answered
    cases enabled : block.isEnabled with
    | true =>
      rw [if_pos enabled] at answered
      rw [outcome_fallback_of_some idle answered]
      simp [enabled]
    | false =>
      rw [if_neg (Bool.eq_false_iff.mp enabled)] at answered
      rw [outcome_fallback_of_none idle works answered]
      simp [enabled]
  | none =>
    have absent := Bootstrap.flagCount_of_unlisted works valid first
    cases bootstrap : options.bootstrap with
    | false =>
      have answered := Bootstrap.defaultAnswer_off works bootstrap absent
      rw [outcome_fallback_of_none idle works answered]
      simp
    | true =>
      rcases Bootstrap.defaultAnswer_made works bootstrap absent with
        ⟨block, reached, answered⟩ | ⟨⟨failure, reached, failed⟩, crowded⟩
      · rw [outcome_fallback_of_some idle answered]
        simp
      · rw [outcome_fallback_of_error idle failed]
        simp [crowded]

theorem outcome_resolve_of_unasked (works : storage.Works) (idle : session.inBlock = false)
    (unnamed : named? session.botId message storage = .ok none)
    (untriggered : Trigger.firstMatch Block.triggers message
      (storage.store.listBlocks session.botId true) = none) :
    outcome (resolve options session message) storage =
      outcome (fallback options session message) storage := by
  have unasked := outcome_explicit works idle unnamed
  rw [untriggered] at unasked
  rw [resolve, outcome_bind_of_ok unasked]
  rfl

/-- A bot is silent if each of the three ways to an answer gives nothing. -/
theorem silent_iff (works : storage.Works) (valid : storage.store.BlocksValid)
    (apart : storage.store.blockIds.Nodup) (idle : session.inBlock = false) :
    Silent options storage.store session.botId message ↔
      named? session.botId message storage = .ok none ∧
      Trigger.firstMatch Block.triggers message (storage.store.listBlocks session.botId true) = none ∧
      (outcome (fallback options session message) storage).1 = .ok none := by
  rw [named?_eq_none_iff works valid apart, firstMatch_eq_none_iff,
    (fallback_answers works valid apart idle).1, ofFlows_eq_none_iff]
  constructor
  · rintro ⟨unnamed, untriggered, unanswered, unmade, unstarted, undefaulted⟩
    exact ⟨unnamed, untriggered, unanswered, unmade, unstarted, undefaulted⟩
  · rintro ⟨unnamed, untriggered, unanswered, unmade, unstarted, undefaulted⟩
    exact ⟨unnamed, untriggered, unanswered, unmade, unstarted, undefaulted⟩

theorem resolve_answers (works : storage.Works) (valid : storage.store.BlocksValid)
    (apart : storage.store.blockIds.Nodup) (idle : session.inBlock = false) :
    ((outcome (resolve options session message) storage).1 = .ok none ↔
      Silent options storage.store session.botId message) ∧
    ∀ failure, (outcome (resolve options session message) storage).1 = .error failure →
      (outcome (fallback options session message) storage).1 = .error failure := by
  rw [silent_iff works valid apart idle]
  obtain ⟨found, named⟩ := named?_ok works valid apart session.botId message
  -- a payload comes before the triggers, and only what neither of them answers falls back
  cases found with
  | some block =>
    have explicitly := explicit_payload_iff.mpr ⟨idle, named⟩
    rw [resolve, outcome_bind_of_ok explicitly, named]
    simp
  | none =>
    cases triggered : Trigger.firstMatch Block.triggers message
        (storage.store.listBlocks session.botId true) with
    | some block =>
      have explicitly := outcome_explicit works idle named
      rw [triggered] at explicitly
      rw [resolve, outcome_bind_of_ok explicitly]
      simp
    | none =>
      rw [outcome_resolve_of_unasked works idle named triggered, named]
      simp

/-- A message of a session that is in no block resolves to nothing exactly if neither a payload nor a
trigger names an enabled block, the first block flagged as default answer is not enabled or there is
none and none is made up, and no active flow has a trigger in the message or is the default. It fails
only where a default answer is made up and there are no numbers left for two more blocks. A turn has
nothing to run only if its message resolves to nothing. -/
theorem resolve_silent_iff (works : storage.Works) (valid : storage.store.BlocksValid)
    (apart : storage.store.blockIds.Nodup) (idle : session.inBlock = false) :
    ((outcome (resolve options session message) storage).1 = .ok none ↔
      Silent options storage.store session.botId message) ∧
    (∀ failure, (outcome (resolve options session message) storage).1 = .error failure →
      options.bootstrap = true ∧
      (storage.store.listBlocks session.botId false).find? (·.isDefaultAnswer) = none ∧
      ¬ storage.store.Roomy session.botId 2) ∧
    ∀ context botId senderId, (outcome (Turn.start options session message context) storage).1 =
      .error (.nothingToRun botId senderId) →
      Silent options storage.store session.botId message := by
  have answers := @resolve_answers storage session message options works valid apart idle
  refine ⟨answers.1, fun failure failed => ?_, fun context botId senderId failed => ?_⟩
  · exact (fallback_answers works valid apart idle).2 failure (answers.2 failure failed)
  · exact answers.1.mp (Turn.resolve_of_nothingToRun idle failed)

def caller : Session where
  id := "s1"
  botId := "bot-1"
  senderId := "u1"

def fallbackOf (id : String) (isEnabled : Bool) : Block where
  id := id
  botId := "bot-1"
  name := "Default Answer"
  isDefaultAnswer := true
  isEnabled := isEnabled
  createdAt := ⟨0, none⟩

def catchAll : Flow where
  id := "catch-all"
  botId := "bot-1"
  isDefault := true
  createdAt := ⟨0, none⟩

/-- A bot whose default answer is switched off, with a default flow. -/
def catching : Storage where
  store := .memory { blocks := [fallbackOf "old" false], flows := [catchAll] }
  source := { micros := 0 }

theorem catch_all_answers :
    (outcome (resolve {} caller "hello") catching).1 ≠ .ok none := by
  have silent_iff := @resolve_silent_iff catching caller "hello" {} ⟨rfl, rfl⟩ trivial
    (List.nodup_singleton "old") rfl
  intro nothing
  have silent := silent_iff.1.mp nothing
  have switched := silent.undefaulted catchAll (List.mem_singleton.mpr rfl)
  cases switched

/-- A bot with a default answer that is switched off, and then one that is not. -/
def hushed : Storage where
  store := .memory { blocks := [fallbackOf "old" false, fallbackOf "new" true] }
  source := { micros := 0 }

/-- The default answer that is switched off hides the other one: the bot claims to be unconfigured. -/
theorem second_answer_is_missed :
    fallbackOf "new" true ∈ hushed.store.listBlocks "bot-1" true ∧
    outcome (resolve {} caller "hello") hushed = (.ok none, hushed) ∧
    outcome (resolve { bootstrap := false } caller "hello") hushed = (.ok none, hushed) ∧
    outcome (Turn.start {} caller "hello" []) hushed =
      (.error (.nothingToRun "bot-1" "u1"), hushed) :=
  ⟨List.mem_singleton.mpr rfl, rfl, rfl, rfl⟩

end Resolution

end Parley
