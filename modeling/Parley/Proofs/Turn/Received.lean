import Parley.Proofs.Storage.Keeping
import Parley.Proofs.Turn.Beginning
import Parley.Proofs.Turn.Opening

/-!
The session with which a turn goes on when no request fails: that of the store, or a new one, and an
idle one after an interrupt.
-/

namespace Parley

open Storage (Part SameBut Becomes Evolves)

/-! ### What choosing a start does not see -/

namespace Respects

variable {parts : List Part}

theorem explicit (blocks : .blocks ∉ parts) (session : Session) (message : String) :
    Respects (SameBut parts) (Resolution.explicit session message) := by
  rw [Resolution.explicit]
  split
  · exact Respects.pure _
  · apply Respects.bind
    · rw [Resolution.ofPayload]
      split
      · exact Respects.bind (Respects.getBlock blocks _ _) fun _ => Respects.pure _
      · exact Respects.pure _
    · intro named
      cases named with
      | some block => exact Respects.pure _
      | none =>
        apply Respects.bind
        · exact Respects.bind (Respects.listBlocks blocks _ _) fun _ => Respects.pure _
        · intro triggered
          cases triggered <;> exact Respects.pure _

theorem parkedFlow (flows : .flows ∉ parts) (session : Session) :
    Respects (SameBut parts) session.parkedFlow := by
  rw [Session.parkedFlow]
  split
  · exact Respects.getFlow flows _ _
  · exact Respects.bind (Respects.listFlows flows _ _) fun _ => Respects.pure _

end Respects

namespace Storage

variable {parts : List Part} {storage other : Storage} {session : Session}

theorem AsksCard.of_same {question : CardQuestion} (asks : storage.AsksCard session question)
    (same : other.findBlock session.botId question.block.id =
      storage.findBlock session.botId question.block.id) : other.AsksCard session question :=
  ⟨asks.block, asks.card, same.trans asks.found, asks.posed⟩

theorem AsksNode.of_same {question : NodeQuestion} (asks : storage.AsksNode session question)
    (same : SameBut parts storage other) (blocks : .blocks ∉ parts) (flows : .flows ∉ parts) :
    other.AsksNode session question := by
  refine ⟨fun blockId inside => ?_, asks.node, ?_, asks.found, asks.posed⟩
  · rw [same.findBlock blocks]
    exact asks.outside blockId inside
  · rw [← (Respects.parkedFlow flows session storage other same).1]
    exact asks.flow

/-! ### Sessions of a store in order -/

theorem Calm.getSession (calm : storage.Calm) {botId senderId : String} {row : SessionRow}
    (stored : storage.sessionRow? botId senderId = some row) (valid : row.toSession = .ok session) :
    outcome (getSession botId senderId) storage = (.ok (some session), storage) := by
  rw [Storage.getSession, outcome_request, calm.works, if_neg List.not_mem_nil, calm.up]
  cases content : storage.store with
  | memory memory =>
    rw [Storage.sessionRow?, content, Memory.sessionRow?_eq] at stored
    obtain ⟨kept, found, rfl⟩ := Option.map_eq_some_iff.mp stored
    rw [kept.toRow_toSession] at valid
    cases valid
    dsimp only
    rw [found]
    rfl
  | sql sql =>
    rw [Storage.sessionRow?, content] at stored
    have look : sql.sessionRow? botId senderId = some row := stored
    dsimp only
    rw [if_neg Bool.false_ne_true, outcome_bind, outcome_lookUpSession, calm.current]
    dsimp only
    rw [look]
    dsimp only
    rw [valid]
    rfl

/-- The session of a sender as it is stored, or a new one for a sender who has none. -/
def Knows (botId senderId : String) (session : Session) (storage : Storage) : Prop :=
  (∃ row, storage.sessionRow? botId senderId = some row ∧ row.toSession = .ok session) ∨
    storage.sessionRow? botId senderId = none ∧ session = { id := session.id, botId, senderId }

end Storage

namespace GetsSession

variable {botId senderId : String} {storage reached : Storage} {session : Session}

theorem knows (gets : GetsSession botId senderId storage (.ok session, reached))
    (fresh : storage.staleSessions = 0) : storage.Knows botId senderId session := by
  cases gets with
  | found read stored valid => exact Or.inl ⟨_, stored, valid⟩
  | created read absent saves => exact Or.inr ⟨absent fresh, saves.saved_eq⟩

theorem current {answer : Except Failure Session}
    (gets : GetsSession botId senderId storage (answer, reached))
    (fresh : storage.staleSessions = 0) : reached.staleSessions = 0 := by
  cases gets with
  | failed read => exact read.current fresh
  | found read stored valid => exact read.current fresh
  | created read absent saves => exact saves.current (read.current fresh)

theorem apart {answer : Except Failure Session}
    (gets : GetsSession botId senderId storage (answer, reached))
    (apart : storage.store.SessionIdsApart) : reached.store.SessionIdsApart := by
  cases gets with
  | failed read =>
    rw [read.store_eq]
    exact apart
  | found read stored valid =>
    rw [read.store_eq]
    exact apart
  | created read absent saves =>
    apply saves.apart
    rw [read.store_eq]
    exact apart

end GetsSession

namespace Turn

/-- What a turn may change before it begins. -/
def openingParts : List Part := .sessions :: .sessionLookups :: bookParts

/-- Where and with which session a turn begins. -/
structure Opens (options : Options) (bot : Bot) (incoming : Incoming) (storage : Storage)
    (session : Session) (opened : Storage) : Prop where
  same : SameBut openingParts storage opened
  calm : opened.Calm
  apart : opened.store.SessionIdsApart
  owner : session.botId = bot.id ∧ session.senderId = incoming.senderId
  kept : interrupts options incoming.text = false → storage.Knows bot.id incoming.senderId session
  forgotten : interrupts options incoming.text = true →
    session.currentBlockId = none ∧ session.currentNodeId = none ∧ session.context = []

theorem receive_opens {bot : Bot} {incoming : Incoming}
    {storage reached : Storage} {session : Session} (calm : storage.Calm)
    (apart : storage.store.SessionIdsApart)
    (run : outcome (receive bot incoming) storage = (.ok session, reached)) :
    SameBut openingParts storage reached ∧ reached.Calm ∧ reached.store.SessionIdsApart ∧
      (session.botId = bot.id ∧ session.senderId = incoming.senderId) ∧
      storage.Knows bot.id incoming.senderId session := by
  obtain ⟨found, getting, rfl⟩ := receive_ok run
  have gets := Session.getOrCreate_gets bot.id incoming.senderId storage
  rw [getting] at gets
  have got := ((Touches.getOrCreate bot.id incoming.senderId).apply getting).same
  have books := (keepBooks_becomes bot incoming found).same
  have foundCalm := calm.of_current got (gets.current calm.current)
  exact ⟨(got.mono (by decide)).trans (books.mono (by decide)), books.calm (by decide) foundCalm,
    books.apart (by decide) (gets.apart apart), gets.owner, gets.knows calm.current⟩

theorem heed_opens {options : Options} {incoming : Incoming} {storage middle reached : Storage}
    {bot : Bot} {session heeded : Session} (calm : middle.Calm)
    (apart : middle.store.SessionIdsApart)
    (same : SameBut openingParts storage middle)
    (owner : session.botId = bot.id ∧ session.senderId = incoming.senderId)
    (knows : storage.Knows bot.id incoming.senderId session)
    (run : outcome (heed options incoming.text session) middle = (.ok heeded, reached)) :
    Opens options bot incoming storage heeded reached := by
  rw [heed] at run
  split at run
  · rename_i interrupted
    have saves := Storage.saveSession_saves session.reset middle
    have saved := ((Touches.saveSession session.reset).apply run).same
    rw [Session.forget] at run
    rw [run] at saves
    have heededCalm := calm.of_current saved (saves.current calm.current)
    refine ⟨same.trans (saved.mono (by decide)), heededCalm, saves.apart apart, ?_, ?_,
      fun _ => ?_⟩
    · rw [saves.saved_eq]
      exact owner
    · intro quiet
      rw [interrupted] at quiet
      cases quiet
    · rw [saves.saved_eq]
      exact ⟨rfl, rfl, rfl⟩
  · rename_i quiet
    cases run
    exact ⟨same, calm, apart, owner, fun _ => knows, fun interrupted => absurd interrupted quiet⟩

theorem ready_opens {options : Options} {bot : Bot} {incoming : Incoming} {storage reached : Storage}
    {session : Session} {begun : Start} (calm : storage.Calm)
    (apart : storage.store.SessionIdsApart)
    (run : outcome (ready options bot incoming) storage = (.ok (session, begun), reached)) :
    ∃ opened, Opens options bot incoming storage session opened ∧
      outcome (start options session incoming.text session.context) opened = (.ok begun, reached) := by
  obtain ⟨received, middle, opened, receiving, heeding, starting⟩ := ready_ok run
  obtain ⟨same, calm, apart, owner, knows⟩ := receive_opens calm apart receiving
  exact ⟨opened, heed_opens calm apart same owner knows heeding, starting⟩

theorem ready_of_stored {options : Options} {bot : Bot} {incoming : Incoming} {storage : Storage}
    {session : Session} {row : SessionRow} (calm : storage.Calm)
    (quiet : interrupts options incoming.text = false)
    (stored : storage.sessionRow? bot.id incoming.senderId = some row)
    (valid : row.toSession = .ok session) :
    ∃ opened, SameBut bookParts storage opened ∧ ∀ begun reached,
      outcome (start options session incoming.text session.context) opened = (.ok begun, reached) →
        outcome (ready options bot incoming) storage = (.ok (session, begun), reached) := by
  have got : outcome (Session.getOrCreate bot.id incoming.senderId) storage =
      (.ok session, storage) := by
    rw [Session.getOrCreate, outcome_bind_of_ok (calm.getSession stored valid)]
    rfl
  have received : outcome (receive bot incoming) storage =
      (.ok session, ((keepBooks bot incoming).run storage).2) := by
    rw [outcome_receive, got]
  refine ⟨_, (keepBooks_becomes bot incoming storage).same, fun begun reached starts => ?_⟩
  rw [ready, outcome_bind_of_ok received, heed, quiet]
  change outcome (start options session incoming.text session.context >>= fun begun =>
    pure (session, begun)) _ = _
  rw [outcome_bind_of_ok starts]
  rfl

end Turn

end Parley
