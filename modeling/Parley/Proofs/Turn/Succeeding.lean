import Parley.Proofs.Turn.Phases
import Parley.Proofs.Turn.Received

/-!
Turns that succeed. The session is stored where the plan of the turn stopped, with the variables with
which the turn began.
-/

namespace Parley.Turn

open Storage (Part logParts SameBut)

variable {σ : Type} {options : Options} {bot : Bot} {incoming : Incoming}

def closingParts : List Part := .sessions :: .sessionLookups :: logParts

/-- How a turn that succeeds has gone. -/
structure Succeeds (options : Options) (bot : Bot) (incoming : Incoming) (before after : Storage)
    (session : Session) (begun : Start) (opened reached : Storage) (saved : Session) : Prop where
  opens : Opens options bot incoming before session opened
  ready : outcome (ready options bot incoming) before = (.ok (session, begun), reached)
  starts : outcome (start options session incoming.text session.context) opened = (.ok begun, reached)
  stops : ∃ parked, (planFrom options reached begun).ending = stop parked ∧
    saved = { stopped begun.mode parked begun.context session with id := saved.id }
  same : SameBut closingParts reached after
  calm : after.Calm
  stored : after.sessionRow? bot.id incoming.senderId = some saved.toRow

theorem Succeeds.context {before after opened reached : Storage} {session saved : Session}
    {begun : Start}
    (succeeds : Succeeds options bot incoming before after session begun opened reached saved) :
    saved.context = begun.context := by
  obtain ⟨parked, _, moved⟩ := succeeds.stops
  rw [moved]
  exact (stopped_kept begun.mode parked begun.context session).2.2

theorem execute_ok {carry : Carrier σ} {before after : World σ} {result : TurnResult}
    (run : (execute carry options bot incoming).run before = (result, after))
    (succeeded : result.success = true) :
    outcome (attempt carry options bot incoming) before = (.ok result, after) := by
  rw [execute_run] at run
  rcases attempted : outcome (attempt carry options bot incoming) before with ⟨answer, reached⟩
  rw [attempted] at run
  cases answer with
  | ok answer =>
    cases run
    rfl
  | error failure =>
    cases run
    cases succeeded

theorem execute_succeeds {carry : Carrier σ} {before after : World σ} {result : TurnResult}
    (calm : before.storage.Calm) (apart : before.storage.store.SessionIdsApart)
    (run : (execute carry options bot incoming).run before = (result, after))
    (succeeded : result.success = true) :
    ∃ session begun opened reached saved,
      Succeeds options bot incoming before.storage after.storage session begun opened reached
        saved := by
  obtain ⟨session, begun, reached, ready, saved, final, parking, _, rfl⟩ :=
    attempt_ok carry options bot incoming (execute_ok run succeeded)
  obtain ⟨opened, opens, starts⟩ := ready_opens calm apart ready
  obtain ⟨made, _, performed⟩ := performAll_performs carry bot session.senderId options
    (planFrom options reached begun).effects { before with storage := reached }
  generalize ((performAll carry options bot session.senderId
    (planFrom options reached begun).effects).run { before with storage := reached }).2 = world
    at parking performed
  have started := ((Touches.start options session incoming.text session.context).apply starts).same
  have shown := performed.becomes.same
  have calm : world.storage.Calm := shown.calm (by decide) (started.calm (by decide) opens.calm)
  have apart := shown.apart (by decide) (started.apart (by decide) opens.apart)
  have parks := ((park_touches _ _ _).apply parking).same
  refine ⟨session, begun, opened, reached, saved, ?_⟩
  rcases park_cases session begun (planFrom options reached begun) with
    ⟨failure, _, thrown⟩ | ⟨parked, stops, saves⟩
  · rw [thrown] at parking
    cases parking
  · rw [saves] at parking
    have saving := Storage.saveSession_saves
      (stopped begun.mode parked begun.context session) world.storage
    rw [parking] at saving
    obtain ⟨botId, senderId, _⟩ := stopped_kept begun.mode parked begun.context session
    have row := saving.row calm.current (Or.inr apart)
    rw [botId, senderId, opens.owner.1, opens.owner.2] at row
    have settledCalm := calm.of_current parks (saving.current calm.current)
    exact ⟨opens, ready, starts, ⟨parked, stops, saving.saved_eq⟩,
      (shown.mono (by decide)).trans (parks.mono (by decide)), settledCalm, row⟩

/-! ### The next turn -/

/-- A turn begins somewhere with a session, and stores the variables with which it begins if it
succeeds. -/
structure GoesOn (options : Options) (bot : Bot) (incoming : Incoming) (storage : Storage)
    (session : Session) (begun : Start) : Prop where
  ready : ∃ reached, outcome (ready options bot incoming) storage = (.ok (session, begun), reached)
  stores : ∀ {σ : Type} (carry : Carrier σ) (before after : World σ) (result : TurnResult),
    before.storage = storage → (execute carry options bot incoming).run before = (result, after) →
      result.success = true →
      ∃ saved : Session, after.storage.sessionRow? bot.id incoming.senderId = some saved.toRow ∧
        saved.context = begun.context

theorem GoesOn.of_ready {storage reached : Storage} {session : Session} {begun : Start}
    (calm : storage.Calm) (apart : storage.store.SessionIdsApart)
    (run : outcome (Turn.ready options bot incoming) storage = (.ok (session, begun), reached)) :
    GoesOn options bot incoming storage session begun := by
  refine ⟨⟨reached, run⟩, fun carry before after result same executed succeeded => ?_⟩
  subst same
  obtain ⟨session', begun', _, _, saved, succeeds⟩ :=
    execute_succeeds calm apart executed succeeded
  -- a turn opens in one way only
  have agree := succeeds.ready.symm.trans run
  cases agree
  exact ⟨saved, succeeds.stored, succeeds.context⟩

/-- A turn is the next one of a session that is stored, and no interrupt. -/
structure Next (session : Session) (later : Storage) (options : Options) (bot : Bot)
    (incoming : Incoming) : Prop where
  calm : later.Calm
  apart : later.store.SessionIdsApart
  bot : bot.id = session.botId
  sender : incoming.senderId = session.senderId
  stored : later.sessionRow? session.botId session.senderId = some session.toRow
  quiet : interrupts options incoming.text = false

theorem Next.goesOn {session : Session} {later : Storage}
    (next : Next session later options bot incoming) {begun : Start}
    (starts : ∀ opened, SameBut bookParts later opened →
      ∃ reached, outcome (start options session incoming.text session.context) opened =
        (.ok begun, reached)) :
    GoesOn options bot incoming later session begun := by
  have stored := next.stored
  rw [← next.bot, ← next.sender] at stored
  obtain ⟨opened, same, readies⟩ :=
    ready_of_stored next.calm next.quiet stored session.toRow_toSession
  obtain ⟨reached, started⟩ := starts opened same
  exact .of_ready next.calm next.apart (readies begun reached started)

end Parley.Turn
