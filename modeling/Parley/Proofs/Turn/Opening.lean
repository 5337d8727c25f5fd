import Parley.Proofs.Turn.Choosing

/-!
How a turn opens: the session of the sender is found or created, the books are kept, and a place to
start is chosen.
-/

namespace Parley

open Schema
open SessionRow (presentOr)
open Storage (Part Becomes LookedUp Evolves)

/-! ### Sessions that are found -/

theorem Source.newSession_issues (botId senderId : String) :
    Source.Issues (newSession botId senderId) :=
  Source.freshId_issues.bind fun _ => Source.now_issues.bind fun _ =>
    Source.now_issues.bind fun _ => .pure _

/-- How looking for a session turns out. -/
inductive FindsSession (botId senderId : String) (storage : Storage) :
    Except Failure (Option Session) × Storage → Prop where
  | failed {failure : Failure} {reached : Storage} (read : LookedUp storage reached) :
    FindsSession botId senderId storage (.error failure, reached)
  | missing {reached : Storage} (read : LookedUp storage reached)
    (absent : storage.staleSessions = 0 → storage.sessionRow? botId senderId = none) :
    FindsSession botId senderId storage (.ok none, reached)
  | found {row : SessionRow} {session : Session} {reached : Storage}
    (read : LookedUp storage reached) (stored : storage.sessionRow? botId senderId = some row)
    (valid : row.toSession = .ok session) :
    FindsSession botId senderId storage (.ok (some session), reached)

theorem Storage.getSession_finds (botId senderId : String) (storage : Storage) :
    FindsSession botId senderId storage (outcome (getSession botId senderId) storage) := by
  have unread := LookedUp.refl storage
  rw [getSession, outcome_request]
  split
  · exact .failed unread
  · split
    · rename_i memory content
      have rows := memory.sessionRow?_eq botId senderId
      rw [← content] at rows
      rw [outcome_pure]
      cases found : memory.session? botId senderId with
      | none =>
        rw [found] at rows
        exact .missing unread fun _ => rows
      | some session =>
        rw [found] at rows
        exact .found unread rows session.toRow_toSession
    · rename_i sql content
      have rows : storage.sessionRow? botId senderId = sql.sessionRow? botId senderId := by
        rw [Storage.sessionRow?, content]
        rfl
      split
      · exact .failed unread
      · obtain ⟨found, reached, look, read, either, shown⟩ :=
          lookUpSession_finds botId senderId sql storage
        rw [outcome_bind_of_ok look]
        cases found with
        | none => exact .missing read fun fresh => rows.trans (shown fresh).symm
        | some row =>
          have stored := rows.trans (either.resolve_left (by simp)).symm
          dsimp only
          rw [outcome_bind, outcome_ofExcept]
          cases valid : row.toSession with
          | error failure => exact .failed read
          | ok session => exact .found read stored valid

/-- How finding or creating a session turns out. -/
inductive GetsSession (botId senderId : String) (storage : Storage) :
    Except Failure Session × Storage → Prop where
  | failed {failure : Failure} {reached : Storage} (read : LookedUp storage reached) :
    GetsSession botId senderId storage (.error failure, reached)
  | found {row : SessionRow} {session : Session} {reached : Storage}
    (read : LookedUp storage reached) (stored : storage.sessionRow? botId senderId = some row)
    (valid : row.toSession = .ok session) :
    GetsSession botId senderId storage (.ok session, reached)
  | created {id : String} {session : Session} {middle reached : Storage}
    (read : LookedUp storage middle)
    (absent : storage.staleSessions = 0 → storage.sessionRow? botId senderId = none)
    (saves : SavesSession { id, botId, senderId } middle (.ok session, reached)) :
    GetsSession botId senderId storage (.ok session, reached)

theorem Session.getOrCreate_gets (botId senderId : String) (storage : Storage) :
    GetsSession botId senderId storage (outcome (getOrCreate botId senderId) storage) := by
  have finds := Storage.getSession_finds botId senderId storage
  rw [getOrCreate, outcome_bind]
  rcases run : outcome (Storage.getSession botId senderId) storage with ⟨answer, middle⟩
  rw [run] at finds
  cases finds with
  | failed read => exact .failed read
  | found read stored valid => exact .found read stored valid
  | missing read absent =>
    dsimp only
    rw [outcome_bind_of_ok (Storage.outcome_draw _ _)]
    have drawn := read.trans (LookedUp.draw middle
      (Source.newSession_issues botId senderId middle.source))
    have saves := Storage.saveSession_saves ((Source.newSession botId senderId).run middle.source).1
      { middle with source := ((Source.newSession botId senderId).run middle.source).2 }
    rcases run : outcome (Storage.saveSession _) _ with ⟨answer, reached⟩
    rw [run] at saves
    cases answer with
    | ok session => exact .created drawn absent saves
    | error failure =>
      cases saves with
      | failed more => exact .failed (drawn.trans more)

/-- A session that stands nowhere and knows nothing. -/
structure SessionRow.Idle (row : SessionRow) : Prop where
  block : row.currentBlockId = none
  card : row.currentCardIndex = .int 0
  node : row.currentNodeId = none
  flow : row.currentFlowId = none
  context : row.context = .obj []

/-- The session of a sender is as it was, or it is new and idle. -/
def Storage.KeepsSession (botId senderId : String) (storage reached : Storage) : Prop :=
  reached.sessionRow? botId senderId = storage.sessionRow? botId senderId ∨
    storage.sessionRow? botId senderId = none ∧
      ∃ row, reached.sessionRow? botId senderId = some row ∧ row.Idle

theorem Storage.KeepsSession.after {botId senderId : String} {storage middle reached : Storage}
    (kept : storage.KeepsSession botId senderId middle)
    (same : reached.sessionRow? botId senderId = middle.sessionRow? botId senderId) :
    storage.KeepsSession botId senderId reached := by
  rwa [Storage.KeepsSession, same]

theorem Storage.LookedUp.sessionRow? {storage reached : Storage} (read : LookedUp storage reached)
    (botId senderId : String) :
    reached.sessionRow? botId senderId = storage.sessionRow? botId senderId :=
  read.becomes.same.sessionRow? (by decide) botId senderId

namespace GetsSession

variable {botId senderId : String} {storage : Storage}

theorem owner {session : Session} {reached : Storage}
    (gets : GetsSession botId senderId storage (.ok session, reached)) :
    session.botId = botId ∧ session.senderId = senderId := by
  cases gets with
  | found read stored valid => exact Storage.sessionRow?_owner stored valid
  | created read absent saves =>
    rw [saves.saved_eq]
    exact ⟨rfl, rfl⟩

theorem evolves {answer : Except Failure Session} {reached : Storage}
    (gets : GetsSession botId senderId storage (answer, reached)) : Evolves storage reached := by
  cases gets with
  | failed read => exact Evolves.of_becomes read.becomes (by decide)
  | found read stored valid => exact Evolves.of_becomes read.becomes (by decide)
  | created read absent saves =>
    have looked := Evolves.of_becomes read.becomes (by decide)
    exact IsTrans.trans _ _ _ looked (saves.evolves ⟨Or.inl rfl, fun _ => rfl, fun _ => rfl⟩)

theorem keeps {answer : Except Failure Session} {reached : Storage}
    (gets : GetsSession botId senderId storage (answer, reached))
    (fresh : storage.staleSessions = 0) : storage.KeepsSession botId senderId reached := by
  cases gets with
  | failed read => exact Or.inl (read.sessionRow? botId senderId)
  | found read stored valid => exact Or.inl (read.sessionRow? botId senderId)
  | created read absent saves =>
    have absent := absent fresh
    have still := (read.sessionRow? botId senderId).trans absent
    refine Or.inr ⟨absent, _, saves.row (read.current fresh) (Or.inl still), ?_⟩
    rw [saves.saved_eq]
    exact ⟨rfl, rfl, rfl, rfl, rfl⟩

end GetsSession

namespace Touches

theorem getOrCreate (botId senderId : String) :
    Touches [.sessions, .source, .sessionLookups] (Session.getOrCreate botId senderId) := by
  apply Within.bind ((Touches.getSession botId senderId).mono (by decide))
  intro found
  cases found with
  | some session => exact Within.pure session
  | none =>
    apply Within.bind ((Touches.draw (Source.newSession_issues botId senderId)).mono (by decide))
    intro session
    exact Touches.saveSession session

theorem heed (options : Options) (text : String) (session : Session) :
    Touches [.sessions, .source, .sessionLookups] (Turn.heed options text session) := by
  rw [Turn.heed]
  split
  · exact Touches.saveSession session.reset
  · exact Within.pure session

end Touches

namespace Turn

/-! ### Keeping the books -/

def bookParts : List Part := [.contacts, .source, .contactLookups, .entries, .counts]

theorem keepBooks_run (bot : Bot) (incoming : Incoming) (storage : Storage) :
    ((keepBooks bot incoming).run storage).2 =
      let tracked := (Bookkeeping.track bot.id incoming.senderId incoming.profile).run storage
      ((Bookkeeping.log bot.id incoming.senderId incoming.text .incoming "text"
        ((tracked.1.map (·.firstToday)).getD false)).run tracked.2).2 := rfl

theorem keepBooks_becomes (bot : Bot) (incoming : Incoming) (storage : Storage) :
    Becomes bookParts storage ((keepBooks bot incoming).run storage).2 := by
  have tracked := Bookkeeping.track_becomes bot.id incoming.senderId incoming.profile storage
  rw [keepBooks_run]
  exact (tracked.mono (by decide)).trans ((Bookkeeping.log_becomes _ _ _ _ _ _ _).mono (by decide))

theorem outcome_receive (bot : Bot) (incoming : Incoming) (storage : Storage) :
    outcome (receive bot incoming) storage =
      match outcome (Session.getOrCreate bot.id incoming.senderId) storage with
      | (.ok session, reached) => (.ok session, ((keepBooks bot incoming).run reached).2)
      | (.error failure, reached) => (.error failure, reached) := by
  rw [receive, outcome_bind]
  rcases outcome (Session.getOrCreate bot.id incoming.senderId) storage with ⟨answer, reached⟩
  cases answer <;> rfl

theorem receive_ok {bot : Bot} {incoming : Incoming} {storage reached : Storage}
    {session : Session} (run : outcome (receive bot incoming) storage = (.ok session, reached)) :
    ∃ found, outcome (Session.getOrCreate bot.id incoming.senderId) storage = (.ok session, found) ∧
      reached = ((keepBooks bot incoming).run found).2 := by
  rw [outcome_receive] at run
  rcases getting : outcome (Session.getOrCreate bot.id incoming.senderId) storage with
    ⟨answer, found⟩
  rw [getting] at run
  cases answer with
  | error failure => cases run
  | ok session =>
    cases run
    exact ⟨found, rfl, rfl⟩

theorem receive_gets (bot : Bot) (incoming : Incoming) (storage : Storage) :
    ∃ reached, GetsSession bot.id incoming.senderId storage
        ((outcome (receive bot incoming) storage).1, reached) ∧
      Becomes bookParts reached (outcome (receive bot incoming) storage).2 := by
  have gets := Session.getOrCreate_gets bot.id incoming.senderId storage
  rw [outcome_receive]
  rcases run : outcome (Session.getOrCreate bot.id incoming.senderId) storage with ⟨answer, reached⟩
  rw [run] at gets
  refine ⟨reached, ?_⟩
  cases answer with
  | ok session => exact ⟨gets, keepBooks_becomes bot incoming reached⟩
  | error failure => exact ⟨gets, Becomes.refl _ reached⟩

/-! ### What an opened turn leaves -/

theorem ready_ok {options : Options} {bot : Bot} {incoming : Incoming} {storage reached : Storage}
    {session : Session} {begun : Start}
    (run : outcome (ready options bot incoming) storage = (.ok (session, begun), reached)) :
    ∃ received middle opened, outcome (receive bot incoming) storage = (.ok received, middle) ∧
      outcome (heed options incoming.text received) middle = (.ok session, opened) ∧
      outcome (start options session incoming.text session.context) opened =
        (.ok begun, reached) := by
  obtain ⟨received, middle, receiving, rest⟩ := outcome_bind_ok run
  obtain ⟨heeded, opened, heeding, rest⟩ := outcome_bind_ok rest
  obtain ⟨chosen, last, starting, answered⟩ := outcome_bind_ok rest
  rw [outcome_pure] at answered
  cases answered
  exact ⟨received, middle, opened, receiving, heeding, starting⟩

theorem receive_evolves (bot : Bot) (incoming : Incoming) : Within Evolves (receive bot incoming) := by
  intro storage
  obtain ⟨middle, gets, books⟩ := receive_gets bot incoming storage
  exact IsTrans.trans _ _ _ gets.evolves (Evolves.of_becomes books (by decide))

theorem heed_evolves (options : Options) (text : String) (session : Session) :
    Within Evolves (heed options text session) := by
  rw [heed]
  split
  · exact Within.saveSession session.toRow_placed_of_reset
  · exact Within.pure session

theorem start_evolves (options : Options) (session : Session) (text : String) (context : Context) :
    Within Evolves (start options session text context) := fun storage =>
  Evolves.of_becomes (Touches.start options session text context storage) (by decide)

theorem ready_evolves (options : Options) (bot : Bot) (incoming : Incoming) :
    Within Evolves (ready options bot incoming) := by
  apply Within.bind (receive_evolves bot incoming)
  intro received
  apply Within.bind (heed_evolves options incoming.text received)
  intro session
  exact Within.bind (start_evolves options session _ _) fun _ => Within.pure _

theorem ready_keeps {options : Options} {incoming : Incoming} {storage : Storage}
    (calm : interrupts options incoming.text = false) (bot : Bot)
    (fresh : storage.staleSessions = 0) :
    storage.KeepsSession bot.id incoming.senderId (outcome (ready options bot incoming) storage).2 := by
  obtain ⟨middle, gets, books⟩ := receive_gets bot incoming storage
  have kept := gets.keeps fresh
  have later : Becomes (bookParts ++ [.blocks]) middle
      (outcome (ready options bot incoming) storage).2 := by
    rw [ready, outcome_bind]
    rcases run : outcome (receive bot incoming) storage with ⟨answer, reached⟩
    rw [run] at books
    cases answer with
    | error failure => exact books.mono (by decide)
    | ok session =>
      -- all that comes after the look-up leaves the sessions alone
      have started : Touches (bookParts ++ [.blocks]) (do
          let session ← heed options incoming.text session
          return (session, ← start options session incoming.text session.context)) := by
        rw [heed, calm]
        refine Within.bind (Within.pure session) fun session => ?_
        apply Within.bind ((Touches.start options session _ _).mono (by decide))
        intro start
        exact Within.pure _
      exact (books.mono (by decide)).trans (started reached)
  exact kept.after (later.same.sessionRow? (by decide) _ _)

end Turn

end Parley
