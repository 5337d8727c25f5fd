import Parley.Proofs.Engine.Routes
import Parley.Proofs.Engine.Sends
import Parley.Proofs.Turn.Beginning
import Parley.Proofs.Turn.Limits

/-!
Every turn is bounded by the number of steps that it may take, whatever the flows and blocks are. A
turn in a flow is out of steps exactly when its route has more nodes than that.
-/

namespace Parley

def Call.speaks (call : Call) : Bool := !call.outbound.isTyping

namespace Turn

variable {σ : Type} {options : Options} {bot : Bot} {incoming : Incoming} {session : Session}
  {text : String} {context : Context} {storage : Storage}

/-! ### Where turns start -/

/-- A turn does not start with a question; in a flow it starts at a node, or is over at once. -/
structure Start.Goes (start : Start) : Prop where
  silent : start.transition.prompt = []
  graph : start.mode = .graph → ∃ flow first, start.transition = Flow.going flow first

theorem going_prompt (flow : Flow) (first : Option Node) : (flow.going first).prompt = [] := by
  cases first <;> rfl

theorem begin_goes {target : Target} {begun : Start} (begins : begin context target = .ok begun) :
    begun.Goes := by
  cases target with
  | block block =>
    cases begins
    exact ⟨rfl, fun graph => by cases graph⟩
  | flow flow =>
    obtain ⟨node, -, rfl⟩ := begin_flow begins
    exact ⟨rfl, fun _ => ⟨flow, some node, rfl⟩⟩

theorem resume_going (flow : Flow) (node : Node) (message : String) (context : Context) :
    ∃ first, (flow.resume node message context).1 = flow.going first := by
  unfold Flow.resume
  split
  · exact ⟨_, flow.follow_eq _ node⟩
  · exact ⟨some node, rfl⟩

theorem arrive_silent (target : Option Block) : (Block.arrive target).prompt = [] := by
  unfold Block.arrive
  split <;> rfl

theorem question_silent {question : CardQuestion} {find : FindBlock} {next : Transition}
    (leads : question.next find = .ok next) : next.prompt = [] := by
  unfold CardQuestion.next at leads
  split at leads
  · rw [← Block.jump_eq] at leads
    obtain ⟨target, -, rfl⟩ := Block.jump_ok leads
    exact arrive_silent target
  · cases leads
    rfl

theorem start_goes {begun : Start} {reached : Storage}
    (run : outcome (start options session text context) storage = (.ok begun, reached)) :
    begun.Goes := by
  cases start_starts run with
  | fresh begins => exact begin_goes begins
  | card leads => exact ⟨question_silent leads, fun graph => by cases graph⟩
  | node flow node =>
    obtain ⟨first, leads⟩ := resume_going flow node text context
    rw [leads]
    exact ⟨going_prompt flow first, fun _ => ⟨flow, first, rfl⟩⟩

theorem ready_goes {begun : Start} {reached : Storage}
    (opened : outcome (ready options bot incoming) storage = (.ok (session, begun), reached)) :
    begun.Goes := by
  obtain ⟨received, _, _, rest⟩ := outcome_bind_ok opened
  obtain ⟨heeded, _, _, rest⟩ := outcome_bind_ok rest
  obtain ⟨started, _, starting, rest⟩ := outcome_bind_ok rest
  cases rest
  exact start_goes starting

/-! ### What a turn sends -/

theorem shown_speaks (effect : Effect) : effect.shown.countP (!·.isTyping) ≤ 1 := by
  cases effect with
  | send message => exact Nat.le_refl 1
  | wait pause =>
    cases shows : pause.showTyping <;> simp [Effect.shown, shows, Outbound.isTyping]

theorem all_shown_speaks (effects : List Effect) :
    (effects.flatMap (·.shown)).countP (!·.isTyping) ≤ effects.length := by
  induction effects with
  | nil => exact Nat.le_refl 0
  | cons effect rest ih =>
    have first := shown_speaks effect
    rw [List.flatMap_cons, List.countP_append, List.length_cons]
    omega

theorem countP_requested (holds : Outbound → Bool) {bot : Bot} {recipientId : String}
    {shown : List Outbound} {made : List Call}
    (requests : made.map (·.request) = shown.map fun outbound => (bot, recipientId, outbound)) :
    made.countP (holds ·.outbound) = shown.countP holds := by
  have outbounds : made.map (·.outbound) = shown := by
    have projected := congrArg (List.map (·.2.2)) requests
    rwa [List.map_map, List.map_map, Function.comp_def, Function.comp_def, List.map_id'] at projected
  rw [← outbounds, List.countP_map]
  rfl

/-- How a plan comes about, and how much it is. -/
theorem planFrom_follows (options : Options) (storage : Storage) (start : Start) :
    ∃ trail left last,
      (planFrom options storage start).Follows storage.findBlock start.context options.budget
        start.transition trail left last ∧
      trail.length ≤ options.maxSteps.toNat ∧
      (planFrom options storage start).effects.length ≤
        2 * options.maxSteps.toNat + start.transition.prompt.length := by
  obtain ⟨trail, left, last, follows⟩ :=
    Plan.run_follows storage.findBlock start.context options.budget start.transition
  have paid := follows.spends.length_le
  have few := follows.spends.walk.effects_length
  rw [options.budget_remaining] at paid
  rw [← follows.effects] at few
  refine ⟨trail, left, last, follows, paid, ?_⟩
  change (Plan.run storage.findBlock start.context options.budget start.transition).effects.length ≤ _
  omega

theorem attempt_calls (carry : Carrier σ) {world after : World σ} {answer : Except Failure TurnResult}
    (run : outcome (attempt carry options bot incoming) world = (answer, after)) :
    ∃ made, after.calls = world.calls ++ made ∧
      made.countP (·.speaks) ≤ 2 * options.maxSteps.toNat := by
  rcases opened : outcome (ready options bot incoming) world.storage with ⟨begun, reached⟩
  cases begun with
  | error failure =>
    rw [attempt_of_unready carry options bot incoming opened] at run
    cases run
    exact ⟨[], (List.append_nil _).symm, Nat.zero_le _⟩
  | ok begun =>
    obtain ⟨session, start⟩ := begun
    rw [attempt_of_ready carry options bot incoming opened] at run
    cases run
    obtain ⟨made, _, performs⟩ := performAll_performs carry bot session.senderId options
      (planFrom options reached start).effects { world with storage := reached }
    obtain ⟨_, _, _, _, _, few⟩ := planFrom_follows options reached start
    have spoken := all_shown_speaks (planFrom options reached start).effects
    rw [(ready_goes opened).silent, List.length_nil] at few
    refine ⟨made, performs.calls, ?_⟩
    have counted : made.countP (·.speaks) = _ := countP_requested (!·.isTyping) performs.requests
    rw [counted]
    omega

theorem reply_calls {value : Json} {recipientId : String} {world reached : World σ}
    (replies : Replies bot recipientId value world reached) :
    ∃ made, reached.calls = world.calls ++ made ∧ made.length ≤ 1 := by
  cases present : value.isPresent with
  | false => exact ⟨[], by rw [replies.silent present, List.append_nil], Nat.zero_le 1⟩
  | true =>
    obtain ⟨call, calls, _⟩ := replies.spoken present
    exact ⟨[call], calls, Nat.le_refl 1⟩

theorem execute_calls (carry : Carrier σ) (options : Options) (bot : Bot) (incoming : Incoming)
    (world : World σ) :
    ∃ made replied, ((execute carry options bot incoming).run world).2.calls =
        world.calls ++ made ++ replied ∧
      made.countP (·.speaks) ≤ 2 * options.maxSteps.toNat ∧
      replied.length ≤ if ((execute carry options bot incoming).run world).1.success then 0 else 1 := by
  rw [execute_run]
  rcases attempted : outcome (attempt carry options bot incoming) world with ⟨answer, reached⟩
  obtain ⟨made, calls, few⟩ := attempt_calls carry attempted
  cases answer with
  | ok result => exact ⟨made, [], by rw [calls, List.append_nil], few, Nat.zero_le _⟩
  | error failure =>
    obtain ⟨replied, more, one⟩ :=
      reply_calls (reply_replies carry bot incoming.senderId (answerTo options failure) reached)
    exact ⟨made, replied, by rw [more, calls], few, one⟩

/-- A turn takes at most as many steps as are allowed and sends at most twice as many messages, and if
it fails at most one reply more. In a flow it is out of steps exactly when no route from its start to an end is short
enough, and then by one step. -/
theorem turns_are_bounded (carry : Carrier σ) (options : Options) (bot : Bot) (incoming : Incoming)
    (world : World σ) :
    (∀ storage start, ∃ trail left last,
      (planFrom options storage start).Follows storage.findBlock start.context options.budget
        start.transition trail left last ∧
      trail.length ≤ options.maxSteps.toNat ∧
      (planFrom options storage start).effects.length ≤
        2 * options.maxSteps.toNat + start.transition.prompt.length) ∧
    (∃ made replied, ((execute carry options bot incoming).run world).2.calls =
        world.calls ++ made ++ replied ∧
      made.countP (·.speaks) ≤ 2 * options.maxSteps.toNat ∧
      replied.length ≤
        if ((execute carry options bot incoming).run world).1.success then 0 else 1) ∧
    ∀ session begun reached,
      outcome (ready options bot incoming) world.storage = (.ok (session, begun), reached) →
      begun.mode = .graph →
      ∃ flow first, begun.transition = Flow.going flow first ∧
        (FailsAtLimit carry options bot incoming world ↔
          ¬ ∃ nodes, flow.Route begun.context first nodes ∧
            nodes.length ≤ options.maxSteps.toNat) ∧
        ∀ failure, FailsWith carry options bot incoming world failure → failure.isLimit = true →
          failure = .outOfSteps options.maxStepsText (options.maxSteps.toNat + 1) := by
  refine ⟨planFrom_follows options, execute_calls carry options bot incoming world, ?_⟩
  intro session begun reached opened graph
  obtain ⟨flow, first, starts⟩ := (ready_goes opened).graph graph
  have plan : planFrom options reached begun =
      Plan.run reached.findBlock begun.context options.budget (flow.going first) := by
    rw [planFrom, starts]
    rfl
  refine ⟨flow, first, starts, ?_, fun failure fails limit => ?_⟩
  · rw [failsAtLimit_iff carry opened, plan, Flow.limited_iff, options.budget_remaining]
  · have ending := (failsWith_iff carry opened limit).mp fails
    have unspent : options.budget.steps = 0 := rfl
    rw [plan] at ending
    rw [Flow.failure_eq ending, options.budget_remaining, unspent, Nat.zero_add]
    rfl

/-- A flow that says the same for ever. -/
def droning : Flow where
  id := "drone"
  botId := "bot"
  nodes := [{ id := "start", content := .start }, { id := "say", content := .text "Again" }]
  edges := [{ source := "start", target := "say" }, { source := "say", target := "say" }]
  isDefault := true
  createdAt := ⟨0, none⟩

def drone : World Unit where
  storage :=
    { store := .memory { flows := [droning] }
      source := { micros := 0 } }
  gateway := { name := "test", medium := () }

def brief : Options where
  maxSteps := 3
  bootstrap := false

theorem drone_ready :
    ∃ session reached, outcome (ready brief { id := "bot" } { senderId := "ada", text := "hi" })
        drone.storage =
      (.ok (session, { mode := .graph, context := []
                       transition := .goto (.node droning { id := "start", content := .start }) }),
        reached) := ⟨_, _, rfl⟩

theorem drone_is_out_of_steps :
    FailsWith (fun _ _ _ medium => { medium }) brief { id := "bot" }
      { senderId := "ada", text := "hi" } drone (.outOfSteps "3" 4) := by
  obtain ⟨session, reached, opened⟩ := drone_ready
  obtain ⟨_, _, graph⟩ := turns_are_bounded (fun _ _ _ medium => { medium }) brief { id := "bot" }
    { senderId := "ada", text := "hi" } drone
  obtain ⟨flow, first, starts, limited, steps⟩ := graph session _ reached opened rfl
  cases first with
  | none => cases starts
  | some node =>
    cases starts
    have again : droning.onward? [] { id := "say", content := .text "Again" } =
        some { id := "say", content := .text "Again" } := rfl
    have round (first : Option Node) (nodes : List Node) (route : droning.Route [] first nodes) :
        first ≠ some { id := "say", content := .text "Again" } := by
      induction route with
      | ended => exact Option.some_ne_none _ ∘ Eq.symm
      | visit _ ih =>
        rintro ⟨⟩
        exact ih again
    obtain ⟨failure, fails, limit⟩ := limited.mpr fun ⟨nodes, route, _⟩ => by
      cases route with
      | visit onward => exact round _ _ onward rfl
    rw [steps failure fails limit] at fails
    exact fails

end Turn

end Parley
