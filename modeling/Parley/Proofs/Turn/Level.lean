import Parley.Proofs.Storage.Keeping
import Parley.Proofs.Storage.Seating
import Parley.Proofs.Turn.Showing

/-!
Turns of a sender in two stores that both have the session of the sender, and differ in it.
-/

namespace Parley

open Storage (Part SameBut Level)

variable {botId senderId : String} {storage other reached : Storage} {parts : List Part}
  {held : SessionRow → SessionRow → Prop}

/-- Rows that stand in the same place, with some variables. -/
def SessionRow.Agree (context : Context) (row other : SessionRow) : Prop :=
  row.SamePlace other ∧ row.context = Session.contextJson context

namespace Turn

/-! ### Settling -/

theorem stopped_twin {session session' : Session} (bot : session'.botId = session.botId)
    (sender : session'.senderId = session.senderId) (mode : Session.Mode) (parked : Option Cursor)
    (context : Context) :
    (stopped mode parked context session).Twin (stopped mode parked context session') := by
  rcases parked with _ | ⟨block, index⟩ | ⟨flow, node⟩
  · cases mode <;>
      simp only [Session.Twin, stopped, Session.atBlock, Session.atNode, bot, sender]
  · simp only [Session.Twin, stopped, Session.atBlock, bot, sender]
  · simp only [Session.Twin, stopped, Session.atNode, bot, sender]

section

variable {session session' : Session} {begun begun' : Start}

theorem park_level (level : Level held parts botId senderId storage other)
    (inside : .sessions ∈ parts)
    (owner : session.botId = botId ∧ session.senderId = senderId)
    (owner' : session'.botId = botId ∧ session'.senderId = senderId)
    (mode : begun'.mode = begun.mode) (context : begun'.context = begun.context) (plan : Plan) :
    Coincide (Level held parts botId senderId)
      (fun ended ended' =>
        Level (SessionRow.Agree begun.context) parts botId senderId ended.2 ended'.2)
      (outcome (park session begun plan) storage) (outcome (park session' begun' plan) other) := by
  have saves (parked : Option Cursor) :
      Coincide (Level held parts botId senderId)
        (fun ended ended' =>
          Level (SessionRow.Agree begun.context) parts botId senderId ended.2 ended'.2)
        (outcome (session.commit begun.mode parked begun.context) storage)
        (outcome (session'.commit begun.mode parked begun.context) other) := by
    obtain ⟨bot, sender, known⟩ := stopped_kept begun.mode parked begun.context session
    have twin := stopped_twin (owner'.1.trans owner.1.symm) (owner'.2.trans owner.2.symm)
      begun.mode parked begun.context
    have level := level
    rw [← owner.1, ← owner.2, ← bot, ← sender] at level
    have saved := level.saves inside twin
    rw [bot, sender, owner.1, owner.2] at saved
    rw [commit_eq, commit_eq]
    refine saved.mono (fun _ _ level => level) ?_
    rintro ⟨saved, reached⟩ ⟨saved', reached'⟩ ⟨mine, twin, level⟩
    refine level.mono (List.Subset.refl parts) ?_
    rintro row row' ⟨rfl, rfl⟩
    have learned : saved.context = begun.context := (congrArg Session.context mine).trans known
    exact ⟨(mine.common twin).samePlace, congrArg Session.contextJson learned⟩
  rw [park, park, mode, context]
  cases plan.ending with
  | failed failure => exact .error level
  | parked cursor => exact saves (some cursor)
  | finished => exact saves none

/-- Two sessions of a sender are settled alike, wherever they stood before. -/
theorem settle_level (level : Level held parts botId senderId storage other)
    (inside : .sessions ∈ parts)
    (owner : session.botId = botId ∧ session.senderId = senderId)
    (owner' : session'.botId = botId ∧ session'.senderId = senderId)
    (mode : begun'.mode = begun.mode) (context : begun'.context = begun.context) (plan : Plan)
    (sent : Nat) :
    Coincide (Level held parts botId senderId)
      (fun ended ended' => ended.1 = ended'.1 ∧
        Level (SessionRow.Agree begun.context) parts botId senderId ended.2 ended'.2)
      (outcome (settle session begun plan sent) storage)
      (outcome (settle session' begun' plan sent) other) := by
  have named : begun'.mode.name = begun.mode.name := congrArg Session.Mode.name mode
  rw [settle, settle, named]
  exact Coincide.bind (park_level level inside owner owner' mode context plan)
    fun _ _ _ _ level => .ok ⟨rfl, level⟩

end

/-! ### Opening -/

theorem getOrCreate_of_stored {row : SessionRow} {session : Session}
    (current : storage.staleSessions = 0) (stored : storage.sessionRow? botId senderId = some row)
    (valid : row.toSession = .ok session) :
    outcome (Session.getOrCreate botId senderId) storage =
      (if storage.refuses .getSession then .error .storeDown else .ok session, storage) := by
  have found := Storage.outcome_getSession current botId senderId
  rw [stored] at found
  dsimp only at found
  rw [valid] at found
  rw [Session.getOrCreate, outcome_bind, found]
  cases storage.refuses .getSession <;> rfl

theorem receive_level {bot : Bot} {incoming : Incoming} {row row' : SessionRow}
    {session session' : Session}
    (level : Level (fun one two => one = row ∧ two = row') parts bot.id incoming.senderId storage
      other)
    (valid : row.toSession = .ok session) (valid' : row'.toSession = .ok session')
    (books : SameBut parts ((keepBooks bot incoming).run storage).2
      ((keepBooks bot incoming).run other).2) :
    Coincide (Level (fun one two => one = row ∧ two = row') parts bot.id incoming.senderId)
      (fun received received' => received.1 = session ∧ received'.1 = session' ∧
        SameBut bookParts storage received.2 ∧
        Level (fun one two => one = row ∧ two = row') parts bot.id incoming.senderId received.2
          received'.2)
      (outcome (receive bot incoming) storage) (outcome (receive bot incoming) other) := by
  obtain ⟨_, _, stored, stored', rfl, rfl⟩ := level.rows
  have found := getOrCreate_of_stored level.finds.current stored valid
  have found' := getOrCreate_of_stored level.finds'.current stored' valid'
  rw [level.same.refuses .getSession] at found'
  rw [outcome_receive, outcome_receive, found, found']
  cases storage.refuses .getSession with
  | true => exact .error level
  | false =>
    have kept := (keepBooks_becomes bot incoming storage).same
    have kept' := (keepBooks_becomes bot incoming other).same
    exact .ok ⟨rfl, rfl, kept, level.after kept kept' (by decide) (by decide) books⟩

theorem heed_level {options : Options} {text : String} {session session' : Session}
    (level : Level held parts botId senderId storage other) (inside : .sessions ∈ parts)
    (interrupted : interrupts options text = true)
    (owner : session.botId = botId ∧ session.senderId = senderId)
    (owner' : session'.botId = botId ∧ session'.senderId = senderId) :
    Coincide (Level held parts botId senderId)
      (fun heeded heeded' => session.reset.Twin heeded.1 ∧ session.reset.Twin heeded'.1 ∧
        Level (SessionRow.Agree []) parts botId senderId heeded.2 heeded'.2)
      (outcome (heed options text session) storage)
      (outcome (heed options text session') other) := by
  obtain ⟨rfl, rfl⟩ := owner
  have twin : session.reset.Twin session'.reset := by
    simp only [Session.Twin, Session.reset, Session.atBlock, owner'.1, owner'.2]
  have level : Level held parts session.reset.botId session.reset.senderId storage other := level
  rw [heed, heed, if_pos interrupted, if_pos interrupted]
  refine (level.saves inside twin).mono (fun _ _ level => level) ?_
  rintro ⟨saved, reached⟩ ⟨saved', reached'⟩ ⟨first, second, level⟩
  refine ⟨first, second, level.mono (List.Subset.refl parts) ?_⟩
  rintro row row' ⟨rfl, rfl⟩
  have forgotten : saved.context = [] := congrArg Session.context first
  exact ⟨(first.common second).samePlace, congrArg Session.contextJson forgotten⟩

end Turn

end Parley
