import Parley.Proofs.Turn.Opening
import Parley.Proofs.Turn.Performing

/-!
The phases of a turn: it opens, performs its plan and is settled, and if one of these fails the
sender is told.
-/

namespace Parley.Turn

open Storage (Part logParts Becomes Evolves)

variable {σ : Type}

theorem outcome_onStore {α : Type} (action : StoreM α) (world : World σ) :
    outcome (onStore action) world =
      ((outcome action world.storage).1,
        { world with storage := (outcome action world.storage).2 }) := rfl

/-! ### Settling -/

/-- A session as a turn leaves it, at the question at which it has stopped, if there is one. -/
def stopped (mode : Session.Mode) (parked : Option Cursor) (context : Context) (session : Session) :
    Session :=
  match parked, mode with
  | some (.card block index), _ => session.atBlock (some block.id) index context
  | some (.node flow node), _ => session.atNode (some node.id) (some flow.id) context
  | none, .block => session.atBlock none 0 context
  | none, .graph => session.atNode none none context

theorem commit_eq (mode : Session.Mode) (parked : Option Cursor) (context : Context)
    (session : Session) :
    session.commit mode parked context =
      Storage.saveSession (stopped mode parked context session) := by
  rcases parked with _ | ⟨block, index⟩ | ⟨flow, node⟩
  · cases mode <;> rfl
  · rfl
  · rfl

theorem stopped_placed (mode : Session.Mode) (parked : Option Cursor) (context : Context)
    (session : Session) : (stopped mode parked context session).toRow.Placed := by
  rcases parked with _ | ⟨block, index⟩ | ⟨flow, node⟩
  · cases mode with
    | block => exact session.toRow_placed_of_atBlock none 0 context
    | graph => exact session.toRow_placed_of_atNode none none context
  · exact session.toRow_placed_of_atBlock (some block.id) index context
  · exact session.toRow_placed_of_atNode (some node.id) (some flow.id) context

theorem stopped_kept (mode : Session.Mode) (parked : Option Cursor) (context : Context)
    (session : Session) :
    (stopped mode parked context session).botId = session.botId ∧
      (stopped mode parked context session).senderId = session.senderId ∧
      (stopped mode parked context session).context = context := by
  rcases parked with _ | ⟨block, index⟩ | ⟨flow, node⟩
  · cases mode <;> exact ⟨rfl, rfl, rfl⟩
  · exact ⟨rfl, rfl, rfl⟩
  · exact ⟨rfl, rfl, rfl⟩

def stop : Option Cursor → Ending
  | some cursor => .parked cursor
  | none => .finished

theorem park_cases (session : Session) (start : Start) (plan : Plan) :
    (∃ failure, plan.ending = .failed failure ∧ park session start plan = throw failure) ∨
      ∃ parked, plan.ending = stop parked ∧
        park session start plan =
          Storage.saveSession (stopped start.mode parked start.context session) := by
  rw [park]
  cases ending : plan.ending with
  | failed failure => exact Or.inl ⟨failure, rfl, rfl⟩
  | parked cursor => exact Or.inr ⟨some cursor, rfl, commit_eq _ _ _ _⟩
  | finished => exact Or.inr ⟨none, rfl, commit_eq _ _ _ _⟩

theorem park_touches (session : Session) (start : Start) (plan : Plan) :
    Touches [.sessions, .source, .sessionLookups] (park session start plan) := by
  rcases park_cases session start plan with ⟨failure, _, thrown⟩ | ⟨parked, _, saves⟩
  · rw [thrown]
    exact Within.throw failure
  · rw [saves]
    exact Touches.saveSession _

theorem settle_evolves (session : Session) (start : Start) (plan : Plan) (sent : Nat) :
    Within Evolves (settle session start plan sent) := by
  apply Within.bind
  · rcases park_cases session start plan with ⟨failure, _, thrown⟩ | ⟨parked, _, saves⟩
    · rw [thrown]
      exact Within.throw failure
    · rw [saves]
      exact Within.saveSession (stopped_placed _ _ _ _)
  · intro _
    exact Within.pure _

/-- A turn that cannot be settled leaves no trace in the store. -/
theorem settle_failed {session : Session} {start : Start} {plan : Plan} {sent : Nat}
    {storage reached : Storage} {failure : Failure}
    (run : outcome (settle session start plan sent) storage = (.error failure, reached)) :
    reached.store = storage.store := by
  rcases outcome_bind_error run with parking | ⟨_, _, _, answered⟩
  · rcases park_cases session start plan with ⟨failure, _, thrown⟩ | ⟨parked, _, saves⟩
    · rw [thrown] at parking
      cases parking
      rfl
    · have saved := Storage.saveSession_saves (stopped start.mode parked start.context session) storage
      rw [saves] at parking
      rw [parking] at saved
      exact saved.store_eq
  · cases answered

/-! ### Attempting -/

section

variable (carry : Carrier σ) (options : Options) (bot : Bot) (incoming : Incoming) {world : World σ}

theorem attempt_of_unready {failure : Failure} {reached : Storage}
    (opened : outcome (ready options bot incoming) world.storage = (.error failure, reached)) :
    outcome (attempt carry options bot incoming) world =
      (.error failure, { world with storage := reached }) := by
  have prepared : outcome (prepare options bot incoming) world =
      (.error failure, { world with storage := reached }) := by
    rw [prepare, outcome_onStore, opened]
  rw [attempt, outcome_bind_of_error prepared]

theorem attempt_of_ready {session : Session} {start : Start} {reached : Storage}
    (opened : outcome (ready options bot incoming) world.storage = (.ok (session, start), reached)) :
    outcome (attempt carry options bot incoming) world =
      let plan := planFrom options reached start
      let performed := (performAll carry options bot session.senderId plan.effects).run
        { world with storage := reached }
      let settled := outcome (settle session start plan performed.1) performed.2.storage
      (settled.1, { performed.2 with storage := settled.2 }) := by
  have prepared : outcome (prepare options bot incoming) world =
      (.ok (session, start), { world with storage := reached }) := by
    rw [prepare, outcome_onStore, opened]
  rw [attempt, outcome_bind_of_ok prepared]
  rfl

/-- A turn that succeeds was opened, and ended where its plan ends. -/
theorem attempt_ok {result : TurnResult} {after : World σ}
    (run : outcome (attempt carry options bot incoming) world = (.ok result, after)) :
    ∃ session start reached,
      outcome (ready options bot incoming) world.storage = (.ok (session, start), reached) ∧
      let plan := planFrom options reached start
      let performed := (performAll carry options bot session.senderId plan.effects).run
        { world with storage := reached }
      ∃ saved final, outcome (park session start plan) performed.2.storage = (.ok saved, final) ∧
        result = { success := true, handledBy := start.mode.name, messagesSent := performed.1 } ∧
        after = { performed.2 with storage := final } := by
  rcases opened : outcome (ready options bot incoming) world.storage with ⟨answer, reached⟩
  cases answer with
  | error failure =>
    rw [attempt_of_unready carry options bot incoming opened] at run
    cases run
  | ok begun =>
    obtain ⟨session, start⟩ := begun
    rw [attempt_of_ready carry options bot incoming opened] at run
    dsimp only at run
    refine ⟨session, start, reached, rfl, ?_⟩
    dsimp only
    rcases performed : (performAll carry options bot session.senderId
      (planFrom options reached start).effects).run { world with storage := reached } with
      ⟨sent, world'⟩
    rw [performed] at run
    rcases settled : outcome (settle session start (planFrom options reached start) sent)
      world'.storage with ⟨answer, final⟩
    rw [settled] at run
    cases run
    obtain ⟨saved, last, parked, answered⟩ := outcome_bind_ok settled
    cases answered
    exact ⟨saved, final, parked, rfl, rfl⟩

end

/-! ### Replying to a failure -/

def said (value : Json) : Outbound :=
  match value with
  | .str text => .message (.text text)
  | value => .value .text value

/-- What a reply does: it shows a value, if there is one. -/
structure Replies (bot : Bot) (recipientId : String) (value : Json) (world reached : World σ) :
    Prop where
  becomes : Becomes logParts world.storage reached.storage
  sleeps : reached.sleeps = world.sleeps
  silent : value.isPresent = false → reached.calls = world.calls
  spoken : value.isPresent = true → ∃ call : Call, reached.calls = world.calls ++ [call] ∧
    call.request = (bot, recipientId, said value)

theorem Replies.requests {bot : Bot} {recipientId : String} {value : Json} {world reached : World σ}
    (replies : Replies bot recipientId value world reached) :
    reached.calls.map (·.request) = world.calls.map (·.request) ++
      if value.isPresent then [(bot, recipientId, said value)] else [] := by
  cases present : value.isPresent with
  | false => rw [replies.silent present, if_neg Bool.false_ne_true, List.append_nil]
  | true =>
    obtain ⟨call, calls, request⟩ := replies.spoken present
    rw [calls, List.map_append, List.map_singleton, request, if_pos rfl]

variable (carry : Carrier σ) (bot : Bot) (recipientId : String)

theorem say_replies (value : Json) (world : World σ) :
    ∃ call : Call, call.request = (bot, recipientId, said value) ∧
      ((say carry bot recipientId value).run world).2.calls = world.calls ++ [call] ∧
      ((say carry bot recipientId value).run world).2.sleeps = world.sleeps ∧
      Becomes logParts world.storage ((say carry bot recipientId value).run world).2.storage := by
  let call : Call :=
    ⟨bot, recipientId, said value, (world.gateway.send carry bot recipientId (said value)).1⟩
  cases value with
  | str text =>
    obtain ⟨call, _, performs⟩ := send_performs carry bot recipientId (.text text) world
    exact ⟨call, List.singleton_inj.mp performs.requests, performs.calls,
      performs.sleeps.trans (List.append_nil _), performs.becomes⟩
  | null | bool | int | float | arr | obj => exact ⟨call, rfl, rfl, rfl, Becomes.refl _ _⟩

theorem reply_replies (value : Json) (world : World σ) :
    Replies bot recipientId value world ((reply carry bot recipientId value).run world).2 := by
  rw [reply]
  cases present : value.isPresent with
  | false =>
    exact ⟨Becomes.refl _ _, rfl, fun _ => rfl,
      fun spoken => absurd (present.symm.trans spoken) (by simp)⟩
  | true =>
    obtain ⟨call, request, calls, sleeps, becomes⟩ := say_replies carry bot recipientId value world
    exact ⟨becomes, sleeps, fun absent => absurd (absent.symm.trans present) (by simp),
      fun _ => ⟨call, calls, request⟩⟩

/-! ### The whole turn -/

theorem execute_run (carry : Carrier σ) (options : Options) (bot : Bot) (incoming : Incoming)
    (world : World σ) :
    (execute carry options bot incoming).run world =
      match outcome (attempt carry options bot incoming) world with
      | (.ok result, reached) => (result, reached)
      | (.error failure, reached) =>
        ({ success := false, error := some failure.message },
          ((reply carry bot incoming.senderId (answerTo options failure)).run reached).2) := by
  rw [execute, StateT.run_bind, outcome]
  rcases StateT.run (attempt carry options bot incoming).run world with ⟨answer, reached⟩
  cases answer <;> rfl

end Parley.Turn
