import Parley.Proofs.Turn.Questions

/-!
All the ways in which a turn can begin: with the answer to a question, with content that is found in
the store, or with a default answer that was made up for the bot.
-/

namespace Parley

open Storage (Part SameBut Becomes)

/-- How a turn begins, and with which storage. -/
inductive Turn.Begins (storage : Storage) (session : Session) (text : String) (context : Context) :
    Turn.Start → Storage → Prop where
  | card {question : CardQuestion} {next : Transition} (asks : storage.AsksCard session question)
    (leads : question.next storage.findBlock = .ok next) :
    Begins storage session text context
      { mode := .block, transition := next, context := question.answer text context } storage
  | node {question : NodeQuestion} (asks : storage.AsksNode session question)
    (unasked : (outcome (Resolution.explicit session.outside text) storage).1 = .ok none) :
    Begins storage session text context
      { mode := .graph, transition := question.next, context := question.answer text context } storage
  /-- A node that asks nothing runs again. -/
  | again {flow : Flow} {node : Node}
    (stored : storage.findFlow session.botId flow.id = .ok (some flow))
    (found : flow.node? node.id = some node) :
    Begins storage session text context
      { mode := .graph, transition := .goto (.node flow node), context } storage
  | block {block : Block} (found : storage.findBlock session.botId block.id = .ok (some block)) :
    Begins storage session text context { mode := .block, transition := block.begin, context } storage
  | plain {block : Block} {reached : Storage} (plain : block.Plain)
    (becomes : Becomes [.blocks, .source] storage reached) :
    Begins storage session text context { mode := .block, transition := block.begin, context } reached
  | flow {flow : Flow} {node : Node} {reached : Storage}
    (stored : storage.findFlow session.botId flow.id = .ok (some flow))
    (first : flow.start? = some node) (becomes : Becomes [.blocks, .source] storage reached) :
    Begins storage session text context
      { mode := .graph, transition := .goto (.node flow node), context } reached

namespace Turn

variable {storage : Storage} {session : Session} {text : String} {context : Context}

theorem begin_flow {flow : Flow} {begun : Start} (begins : begin context (.flow flow) = .ok begun) :
    ∃ node, flow.start? = some node ∧
      begun = { mode := .graph, transition := .goto (.node flow node), context } := by
  unfold begin Flow.begin at begins
  cases first : flow.start? with
  | none =>
    simp only [first] at begins
    cases begins
  | some node =>
    simp only [first] at begins
    cases begins
    exact ⟨node, rfl, rfl⟩

/-! ### Questions -/

theorem resumeBlock_cases {blockId : String} (block : session.currentBlockId = some blockId)
    {resumed : Option (Transition × Context)}
    (run : session.resumeBlock storage.findBlock text context = .ok resumed) :
    storage.findBlock session.botId blockId = .ok none ∧ resumed = none ∨
      ∃ question next, storage.AsksCard session question ∧
        question.next storage.findBlock = .ok next ∧
        resumed = some (next, question.answer text context) := by
  have looked := run
  unfold Session.resumeBlock at looked
  rw [block] at looked
  dsimp only [Option.getD, Bind.bind, Except.bind] at looked
  cases found : storage.findBlock session.botId blockId with
  | error failure =>
    rw [found] at looked
    cases looked
  | ok answer =>
    cases answer with
    | none =>
      rw [found] at looked
      cases looked
      exact Or.inl ⟨rfl, rfl⟩
    | some here =>
      rw [found] at looked
      dsimp only at looked
      have same := (Storage.findBlock_faithful storage _ _ _ found).1
      cases posed : here.input? session.currentCardIndex with
      | none =>
        rw [posed] at looked
        cases looked
      | some names =>
        obtain ⟨variableName, nextBlockId⟩ := names
        rw [← same] at found block
        let question : CardQuestion := ⟨here, session.currentCardIndex, variableName, nextBlockId⟩
        have asks : storage.AsksCard session question := ⟨block, rfl, found, posed⟩
        rw [resumeBlock_of_card asks] at run
        cases leads : question.next storage.findBlock <;> rw [leads] at run <;> cases run
        exact Or.inr ⟨question, _, asks, leads, rfl⟩

/-- The ways in which a turn can start, whatever the store holds. -/
inductive Starts (find : FindBlock) (text : String) (context : Context) : Start → Prop where
  | fresh {target : Target} {begun : Start} (begins : begin context target = .ok begun) :
    Starts find text context begun
  | card {question : CardQuestion} {next : Transition} (leads : question.next find = .ok next) :
    Starts find text context
      { mode := .block, transition := next, context := question.answer text context }
  | node (flow : Flow) (node : Node) :
    Starts find text context
      { mode := .graph, transition := (flow.resume node text context).1,
        context := (flow.resume node text context).2 }

section

variable {options : Options} {begun : Start} {reached : Storage}

theorem startUnasked_begin
    (run : outcome (startUnasked options session text context) storage = (.ok begun, reached)) :
    ∃ target, begin context target = .ok begun := by
  obtain ⟨resolved, middle, _, rest⟩ := outcome_bind_ok run
  cases resolved with
  | none => cases rest
  | some resolution =>
    dsimp only at rest
    rw [Storage.outcome_ofExcept] at rest
    exact ⟨resolution.target, congrArg Prod.fst rest⟩

theorem resumeOutside_resumes {resumed : Transition × Context}
    (run : outcome (resumeOutside session text context) storage = (.ok (some resumed), reached)) :
    ∃ (flow : Flow) (node : Node), resumed = flow.resume node text context := by
  rw [resumeOutside] at run
  split at run
  · obtain ⟨parked, middle, _, rest⟩ := outcome_bind_ok run
    cases parked with
    | none => cases rest
    | some flow =>
      dsimp only at rest
      split at rest
      · cases rest
      · rename_i node _
        cases rest
        exact ⟨flow, node, rfl⟩
  · cases run

theorem startOutside_starts (find : FindBlock)
    (run : outcome (startOutside options session text context) storage = (.ok begun, reached)) :
    Starts find text context begun := by
  obtain ⟨asked, middle, _, rest⟩ := outcome_bind_ok run
  cases asked with
  | some resolution =>
    dsimp only at rest
    rw [Storage.outcome_ofExcept] at rest
    exact .fresh (congrArg Prod.fst rest)
  | none =>
    obtain ⟨resumed, later, resuming, rest⟩ := outcome_bind_ok rest
    cases resumed with
    | none =>
      obtain ⟨target, begins⟩ := startUnasked_begin rest
      exact .fresh begins
    | some resumed =>
      obtain ⟨flow, node, rfl⟩ := resumeOutside_resumes resuming
      cases rest
      exact .node flow node

theorem start_starts
    (run : outcome (start options session text context) storage = (.ok begun, reached)) :
    Starts storage.findBlock text context begun := by
  rw [start] at run
  split at run
  · rename_i inside
    obtain ⟨blockId, block⟩ := Option.isSome_iff_exists.mp inside
    rw [outcome_get_bind] at run
    obtain ⟨resumed, middle, resuming, rest⟩ := outcome_bind_ok run
    rw [Storage.outcome_ofExcept] at resuming
    rcases resumeBlock_cases block (congrArg Prod.fst resuming) with
      ⟨_, rfl⟩ | ⟨question, next, _, leads, rfl⟩
    · exact startOutside_starts _ rest
    · cases rest
      exact .card leads
  · exact startOutside_starts _ run

end

/-! ### Content that is found -/

/-- What a search for the default answer may have come to. A block with which it ends is one of the
store, or a plain one that it made up. -/
structure Searched (storage : Storage) (botId : String) (state : Bootstrap) (reached : Storage) :
    Prop where
  becomes : Becomes [.blocks, .source] storage reached
  reading : state = .findAnswer ∨ (∃ blockId, state = .loadAnswer blockId) → reached = storage
  answer : ∀ created block, state = .finished created (some block) →
    block.Plain ∨ reached = storage ∧ storage.findBlock botId block.id = .ok (some block)

theorem answerBlock_plain {options : Options} {botId : String} {block : Block} {reached : Storage}
    (made : outcome (Storage.draw (Bootstrap.answerBlock options botId)) storage =
      (.ok block, reached)) : block.Plain := by
  have drawn : ((Bootstrap.answerBlock options botId).run storage.source).1 = block :=
    Except.ok.inj (congrArg Prod.fst made)
  intro card member
  rw [← drawn] at member
  rw [List.mem_singleton.mp member]
  exact ⟨_, rfl⟩

theorem Searched.step {options : Options} {botId : String} {state next : Bootstrap}
    {middle reached : Storage} (searched : Searched storage botId state middle)
    (run : outcome (Bootstrap.step options botId state) middle = (.ok next, reached)) :
    Searched storage botId next reached := by
  have becomes := searched.becomes.trans ((Touches.bootstrapStep options botId state).apply run)
  -- the store is only written on the way from a missing answer to a made-up one
  cases state with
  | findAnswer =>
    have start := searched.reading (Or.inl rfl)
    subst start
    obtain ⟨found, _, flagged, rest⟩ := outcome_bind_ok run
    have unchanged := ((Touches.findFlagged _ _).apply flagged).same.eq
    cases found with
    | some blockId =>
      cases rest
      exact ⟨becomes, fun _ => unchanged, fun _ _ ended => by cases ended⟩
    | none =>
      rw [outcome_pure] at rest
      cases rest
      cases options.bootstrap <;> exact ⟨becomes, by simp, by simp⟩
  | loadAnswer blockId =>
    have start := searched.reading (Or.inr ⟨blockId, rfl⟩)
    subst start
    obtain ⟨answer, _, look, rest⟩ := outcome_bind_ok run
    have unchanged := ((Touches.getBlock _ _).apply look).same.eq
    cases rest
    refine ⟨becomes, fun _ => unchanged, fun created block ended => Or.inr ⟨unchanged, ?_⟩⟩
    cases ended
    have found : middle.findBlock botId blockId = .ok (some block) := congrArg Prod.fst look
    rw [(Storage.findBlock_faithful middle _ _ _ found).1]
    exact found
  | findWelcome =>
    obtain ⟨found, _, _, rest⟩ := outcome_bind_ok run
    cases found <;> cases rest <;> exact ⟨becomes, by simp, by simp⟩
  | saveWelcome =>
    obtain ⟨block, _, _, rest⟩ := outcome_bind_ok run
    obtain ⟨_, _, _, rest⟩ := outcome_bind_ok rest
    cases rest
    exact ⟨becomes, by simp, by simp⟩
  | findAnswerAgain created =>
    obtain ⟨found, _, _, rest⟩ := outcome_bind_ok run
    cases found <;> cases rest <;> exact ⟨becomes, by simp, by simp⟩
  | saveAnswer created =>
    obtain ⟨block, _, made, rest⟩ := outcome_bind_ok run
    obtain ⟨_, _, _, rest⟩ := outcome_bind_ok rest
    have plain := answerBlock_plain made
    cases rest
    refine ⟨becomes, by simp, fun created' block ended => Or.inl ?_⟩
    cases ended
    exact plain
  | finished created answer =>
    cases run
    exact searched

theorem Searched.run {options : Options} {botId : String} (requests : Nat) {state final : Bootstrap}
    {middle reached : Storage} (searched : Searched storage botId state middle)
    (run : outcome (Bootstrap.run options botId requests state) middle = (.ok final, reached)) :
    Searched storage botId final reached := by
  induction requests generalizing state middle with
  | zero =>
    cases run
    exact searched
  | succ requests ih =>
    obtain ⟨next, later, first, rest⟩ := outcome_bind_ok run
    exact ih (searched.step first) rest

theorem ofFlows_mem {flows : List Flow} {resolution : Resolution}
    (resolved : Resolution.ofFlows text flows = some resolution) :
    ∃ flow ∈ flows, resolution.target = .flow flow := by
  unfold Resolution.ofFlows at resolved
  split at resolved
  · rename_i flow triggered
    cases resolved
    exact ⟨flow, List.mem_of_find?_eq_some triggered, rfl⟩
  · obtain ⟨flow, first, rfl⟩ := Option.map_eq_some_iff.mp resolved
    exact ⟨flow, List.mem_of_find?_eq_some first, rfl⟩

end Turn

end Parley
