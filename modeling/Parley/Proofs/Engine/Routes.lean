import Parley.Proofs.Engine.Readings

/-!
Routes through a flow. A plan in a flow goes along its route and is out of steps exactly when the route
has more nodes than the budget has steps left.
-/

namespace Parley

namespace Flow

/-- The edges by which a flow may leave a node: of a condition, those that are named for its outcome. -/
def exits (flow : Flow) (context : Context) (node : Node) : List Edge :=
  flow.edges.filter fun edge => edge.source = node.id && match node.content with
    | .condition condition =>
      edge.sourceHandle = some (if condition.holds context.get? then "true" else "false")
    | _ => true

/-- The node that follows in the same turn: none after a question, after an end, and where the first
edge is missing or leads nowhere. -/
def onward? (flow : Flow) (context : Context) (node : Node) : Option Node :=
  match node.content with
  | .userInput .. => none
  | .finish => none
  | _ => (flow.exits context node).head?.bind fun edge => flow.node? edge.target

/-- The nodes from a first one to the one after which none follows in the same turn. -/
inductive Route (flow : Flow) (context : Context) : Option Node → List Node → Prop where
  | ended : Route flow context none []
  | visit {node : Node} {nodes : List Node}
    (onward : Route flow context (flow.onward? context node) nodes) :
    Route flow context (some node) (node :: nodes)

def going (flow : Flow) : Option Node → Transition
  | some node => .goto (.node flow node)
  | none => .done

variable {flow : Flow} {context : Context}

theorem edge?_eq (node : Node) : flow.edge? context node = (flow.exits context node).head? := by
  unfold edge? exits
  rw [List.head?_filter]
  cases node.content <;> simp

theorem follow_eq (flow : Flow) (context : Context) (node : Node) :
    flow.follow context node = flow.going (flow.next? context node) := by
  unfold follow
  cases flow.next? context node <;> rfl

theorem step_next (flow : Flow) (context : Context) (node : Node) :
    (flow.step context node).next = flow.going (flow.onward? context node) ∨
      flow.onward? context node = none ∧
        ∃ prompt, (flow.step context node).next = .await (.node flow node) prompt := by
  have follow := flow.follow_eq context node
  rw [next?, edge?_eq] at follow
  cases content : node.content with
  | userInput prompt variableName =>
    right
    simp [onward?, step, content]
  | finish =>
    left
    simp [onward?, step, content, going]
  | quickReply message buttons =>
    left
    by_cases empty : message = "" ∨ buttons = [] <;> simp [onward?, step, content, follow, empty]
  | start | text | image | card | condition | delay =>
    left
    simp [onward?, step, content, follow]

end Flow

/-! ### Plans in flows -/

variable {find : FindBlock} {flow : Flow} {context : Context} {budget : Budget}

theorem Plan.ending_of_stops (start : Transition) (stops : start.Stops) (failure : Failure) :
    (Plan.run find context budget start).ending ≠ .failed failure := by
  intro failed
  cases start with
  | goto place => exact stops
  | done =>
    rw [Plan.run_done] at failed
    cases failed
  | await cursor prompt =>
    rw [Plan.run_await] at failed
    cases failed

theorem Budget.charge_of_spent (spent : budget.remaining = 0) :
    budget.charge none = .error (.outOfSteps budget.limitText (budget.steps + 1)) := by
  have beyond : budget.limit < (budget.steps + 1 : Nat) := by
    unfold Budget.remaining at spent
    omega
  have overrun : budget.tick.overrun? = some (.outOfSteps budget.limitText (budget.steps + 1)) :=
    if_pos beyond
  unfold Budget.charge
  rw [overrun]

theorem Budget.charge_of_left {rest : Nat} (left : budget.remaining = rest + 1) :
    budget.charge none = .ok budget.tick ∧ budget.tick.remaining = rest := by
  unfold Budget.remaining at left
  have within : budget.tick.overrun? = none := by
    apply Budget.overrun?_eq_none.mpr
    dsimp only [Budget.tick]
    omega
  constructor
  · unfold Budget.charge
    rw [within]
  · dsimp only [Budget.remaining, Budget.tick]
    omega

theorem Plan.run_node {paid : Budget} {node : Node} (charged : budget.charge none = .ok paid) :
    Plan.run find context budget (.goto (.node flow node)) =
      (Plan.run find context paid (flow.step context node).next).after
        (flow.step context node).effects :=
  Plan.run_goto (show budget.charge (Cursor.node flow node).entered = .ok paid from charged) rfl

theorem Flow.Route.completes {first : Option Node} {nodes : List Node}
    (route : flow.Route context first nodes) (enough : nodes.length ≤ budget.remaining)
    (failure : Failure) :
    (Plan.run find context budget (flow.going first)).ending ≠ .failed failure := by
  induction route generalizing budget with
  | ended => exact Plan.ending_of_stops .done trivial failure
  | @visit node nodes onward ih =>
    rw [List.length_cons] at enough
    obtain ⟨rest, left⟩ : ∃ rest, budget.remaining = rest + 1 := ⟨budget.remaining - 1, by omega⟩
    obtain ⟨paid, less⟩ := Budget.charge_of_left left
    rw [Flow.going, Plan.run_node paid]
    rcases flow.step_next context node with leads | ⟨_, prompt, asks⟩
    · rw [leads]
      exact ih (by omega)
    · rw [asks]
      exact Plan.ending_of_stops (.await (.node flow node) prompt) trivial failure

/-- A plan in a flow reaches the end of its route, or is out of steps. -/
theorem Flow.route_or_outOfSteps (find : FindBlock) (context : Context) (budget : Budget)
    (flow : Flow) (first : Option Node) :
    (∃ nodes, flow.Route context first nodes ∧ nodes.length ≤ budget.remaining) ∨
      (Plan.run find context budget (flow.going first)).ending =
        .failed (.outOfSteps budget.limitText (budget.steps + budget.remaining + 1)) := by
  -- each node that is paid for leaves less of the budget
  induction left : budget.remaining generalizing budget first with
  | zero =>
    cases first with
    | none => exact Or.inl ⟨[], .ended, Nat.le_refl 0⟩
    | some node =>
      have refused : budget.charge (Cursor.node flow node).entered = _ := Budget.charge_of_spent left
      right
      rw [Flow.going, Plan.run_refused refused]
      rfl
  | succ rest ih =>
    cases first with
    | none => exact Or.inl ⟨[], .ended, Nat.zero_le _⟩
    | some node =>
      obtain ⟨paid, less⟩ := Budget.charge_of_left left
      rcases flow.step_next context node with leads | ⟨stops, _, _⟩
      · rcases ih budget.tick (flow.onward? context node) less with ⟨nodes, route, short⟩ | out
        · exact Or.inl ⟨node :: nodes, .visit route, Nat.succ_le_succ short⟩
        · right
          have counted : budget.tick.steps + rest + 1 = budget.steps + (rest + 1) + 1 := by
            dsimp only [Budget.tick]
            omega
          rw [counted] at out
          rw [Flow.going, Plan.run_node paid, leads]
          exact out
      · refine Or.inl ⟨[node], .visit ?_, Nat.succ_le_succ (Nat.zero_le rest)⟩
        rw [stops]
        exact .ended

/-- A plan in a flow is out of steps exactly when no route to an end is short enough. -/
theorem Flow.limited_iff (first : Option Node) :
    (Plan.run find context budget (flow.going first)).Limited ↔
      ¬ ∃ nodes, flow.Route context first nodes ∧ nodes.length ≤ budget.remaining := by
  constructor
  · rintro ⟨failure, failed, _⟩ ⟨nodes, route, short⟩
    exact route.completes short failure failed
  · intro long
    rcases Flow.route_or_outOfSteps find context budget flow first with short | out
    · exact absurd short long
    · exact ⟨_, out, rfl⟩

theorem Flow.failure_eq {first : Option Node} {failure : Failure}
    (failed : (Plan.run find context budget (flow.going first)).ending = .failed failure) :
    failure = .outOfSteps budget.limitText (budget.steps + budget.remaining + 1) := by
  rcases Flow.route_or_outOfSteps find context budget flow first with
    ⟨nodes, route, short⟩ | out
  · exact absurd failed (route.completes short failure)
  · rw [out] at failed
    cases failed
    rfl

end Parley
