import Parley.Proofs.Storage.Confinement
import Parley.Proofs.Storage.Parts
import Parley.Proofs.Storage.Sessions
import Parley.Proofs.Storage.Unseen

/-!
How a store answers about a session while its look-ups are up to date, and what two stores do that
differ in their sessions. A store that has the session of a sender saves the next one unless it refuses
to, or the number of the card does not fit into its column.
-/

namespace Parley

open Storage (Part SameBut)

variable {botId senderId : String} {storage other : Storage} {session : Session}

def Store.keep (session : Session) : Store → Except Failure (Session × Store)
  | .memory content =>
    .ok ((content.saveSession session).1, .memory (content.saveSession session).2)
  | .sql content =>
    (content.saveSession (content.sessionRow? session.botId session.senderId) session).map
      fun saved => (saved.1, .sql saved.2)

def Store.overflows (session : Session) : Store → Bool
  | .memory _ => false
  | .sql _ => Cell.isLong session.currentCardIndex

namespace Storage

def ticked (storage : Storage) : Storage :=
  { storage with source := (Source.now.run storage.source).2 }

theorem ticked_same (storage : Storage) : SameBut [.source] storage storage.ticked := by
  simp [SameBut, blank, ticked]

theorem SameBut.ticked {parts : List Part} (same : SameBut parts storage other) :
    SameBut parts storage.ticked other.ticked := by
  by_cases unseen : .source ∈ parts
  · simp only [SameBut, blank, Storage.ticked, unseen, if_true, mk.injEq] at same ⊢
    exact same
  · simp only [SameBut, blank, Storage.ticked, unseen, if_false, mk.injEq] at same ⊢
    obtain ⟨stores, sources, rest⟩ := same
    exact ⟨stores, by rw [sources], rest⟩

theorem outcome_getSession (current : storage.staleSessions = 0) (botId senderId : String) :
    outcome (getSession botId senderId) storage =
      (if storage.refuses .getSession then .error .storeDown
        else match storage.sessionRow? botId senderId with
          | some row => row.toSession.map some
          | none => .ok none, storage) := by
  rw [getSession, outcome_request_eq]
  split
  · rfl
  · cases content : storage.store with
    | memory memory =>
      have rows := memory.sessionRow?_eq botId senderId
      rw [← content] at rows
      rw [Storage.sessionRow?, rows]
      cases found : memory.session? botId senderId with
      | none => simp only [outcome_pure, found, Option.map_none]
      | some session =>
        simp only [outcome_pure, found, Option.map_some]
        rw [session.toRow_toSession]
        rfl
    | sql sql =>
      have rows : storage.sessionRow? botId senderId = sql.sessionRow? botId senderId := by
        rw [Storage.sessionRow?, content]
        rfl
      dsimp only
      rw [outcome_bind, outcome_lookUpSession, current, rows]
      dsimp only
      cases sql.sessionRow? botId senderId with
      | none => rfl
      | some row =>
        dsimp only
        rw [outcome_bind, outcome_ofExcept]
        cases row.toSession <;> rfl

theorem outcome_saveSession (current : storage.staleSessions = 0)
    (untaken : storage.store.keep session ≠ .error .keyTaken) :
    outcome (saveSession session) storage =
      if storage.refuses .saveSession then (.error .storeDown, storage)
      else match storage.store.keep session with
        | .ok (saved, store) => (.ok saved, { storage.ticked with store })
        | .error failure => (.error failure, storage.ticked) := by
  rw [saveSession, outcome_request_eq]
  split
  · rfl
  · cases content : storage.store with
    | memory memory => rfl
    | sql sql =>
      rw [content, Store.keep] at untaken
      have tried : outcome (saveSession.attempt session sql) storage =
          match (Store.sql sql).keep session with
          | .ok (saved, store) => (.ok saved, { storage.ticked with store })
          | .error failure => (.error failure, storage.ticked) := by
        rw [saveSession.attempt, outcome_bind, outcome_lookUpSession, current]
        dsimp only
        rw [outcome_bind_of_ok (outcome_draw _ _), outcome_bind, outcome_ofExcept, Store.keep]
        cases sql.saveSession (sql.sessionRow? session.botId session.senderId) session <;> rfl
      dsimp only
      rw [outcome_retrying _ _ content, tried, Store.keep]
      cases done : sql.saveSession (sql.sessionRow? session.botId session.senderId) session with
      | ok saved => rfl
      | error failure =>
        rw [done] at untaken
        cases failure <;> first | rfl | exact absurd rfl untaken

end Storage

/-! ### Sessions that can be kept -/

/-- A session is not kept from the store by the id of another one. -/
def Store.Admits (session : Session) (store : Store) : Prop :=
  store.sessionRows.find? (·.isOf session.botId session.senderId) = none →
    session.id ∉ store.sessionIds

theorem Store.keep_of_overflows {store : Store} (overflows : store.overflows session = true) :
    store.keep session = .error (.column .tooLarge) := by
  cases store with
  | memory content => cases overflows
  | sql content =>
    have long : Cell.isLong session.currentCardIndex = true := overflows
    rw [keep]
    unfold Sql.saveSession
    rw [if_pos long]
    rfl

theorem Store.keep_of_admits {store : Store} (admits : store.Admits session)
    (fits : store.overflows session = false) :
    ∃ saved store', store.keep session = .ok (saved, store') := by
  cases store with
  | memory content => exact ⟨_, _, rfl⟩
  | sql content =>
    have short : ¬ Cell.isLong session.currentCardIndex = true := fun long => by
      rw [show Cell.isLong session.currentCardIndex = false from fits] at long
      cases long
    rw [keep]
    unfold Sql.saveSession
    rw [if_neg short]
    cases found : content.sessionRow? session.botId session.senderId with
    | some row => exact ⟨_, _, rfl⟩
    | none =>
      have free : ¬ content.sessions.any fun row =>
          row.id = session.id || row.isOf session.botId session.senderId := by
        rw [List.any_eq_true]
        rintro ⟨row, member, taken⟩
        rcases Bool.or_eq_true_iff.mp taken with same | owned
        · exact admits found (List.mem_map.mpr ⟨row, member, of_decide_eq_true same⟩)
        · exact List.find?_eq_none.mp found row member owned
      dsimp only
      rw [if_neg free]
      exact ⟨_, _, rfl⟩

theorem Store.keep_blank {store store' : Store} {saved : Session}
    (kept : store.keep session = .ok (saved, store')) :
    store.blank [.sessions] = store'.blank [.sessions] := by
  cases store with
  | memory content =>
    cases kept
    simp [blank, Memory.blank, Memory.saveSession]
  | sql content =>
    rw [keep] at kept
    cases done : content.saveSession (content.sessionRow? session.botId session.senderId) session with
    | error failure =>
      rw [done] at kept
      cases kept
    | ok answer =>
      rw [done] at kept
      cases kept
      obtain ⟨saved, written⟩ := answer
      exact congrArg Store.sql (Sql.saveSession_same done)

namespace Storage

theorem SameBut.kept {store : Store} (blank : storage.store.blank [.sessions] = store.blank [.sessions]) :
    SameBut [.sessions] storage.ticked { storage.ticked with store } := by
  have stores : storage.ticked.store.blank [.sessions] = store.blank [.sessions] := blank
  simp only [SameBut, Storage.blank, stores]

theorem SameBut.refuses {parts : List Part} (same : SameBut parts storage other) (kind : Request) :
    other.refuses kind = storage.refuses kind := by
  rw [Storage.refuses, Storage.refuses, same.broken, same.down]
  cases content : storage.store with
  | memory memory =>
    obtain ⟨memory', content', _⟩ := same.memory content
    rw [content']
  | sql sql =>
    obtain ⟨sql', content', _⟩ := same.sql content
    rw [content']

theorem SameBut.overflows {parts : List Part} (same : SameBut parts storage other)
    {session' : Session} (index : session'.currentCardIndex = session.currentCardIndex) :
    other.store.overflows session' = storage.store.overflows session := by
  cases content : storage.store with
  | memory memory =>
    obtain ⟨memory', content', _⟩ := same.memory content
    rw [content']
    rfl
  | sql sql =>
    obtain ⟨sql', content', _⟩ := same.sql content
    rw [content', Store.overflows, Store.overflows, index]

theorem SameBut.apart {parts : List Part} (same : SameBut parts storage other) (out : .sessions ∉ parts)
    (apart : storage.store.SessionIdsApart) : other.store.SessionIdsApart := by
  cases content : storage.store with
  | memory memory =>
    obtain ⟨memory', content', _⟩ := same.memory content
    rw [content']
    trivial
  | sql sql =>
    obtain ⟨sql', content', _⟩ := same.sql content
    have rows := same.sessionRows out
    rw [content, content'] at rows
    rw [content] at apart
    rw [content']
    have ids : sql'.sessions.map (·.id) = sql.sessions.map (·.id) := congrArg (List.map (·.id)) rows
    change (sql'.sessions.map (·.id)).Nodup
    rw [ids]
    exact apart

structure Finds (botId senderId : String) (storage : Storage) : Prop where
  current : storage.staleSessions = 0
  apart : storage.store.SessionIdsApart
  stored : ∃ row, storage.sessionRow? botId senderId = some row

theorem Finds.of_same {parts : List Part} (finds : storage.Finds botId senderId)
    (same : SameBut parts storage other) (sessions : .sessions ∉ parts)
    (lookups : .sessionLookups ∉ parts) : other.Finds botId senderId := by
  obtain ⟨current, apart, row, stored⟩ := finds
  refine ⟨(same.staleSessions lookups).trans current, same.apart sessions apart, row, ?_⟩
  rw [same.sessionRow? sessions]
  exact stored

theorem Finds.admits (finds : storage.Finds session.botId session.senderId) :
    storage.store.Admits session := by
  obtain ⟨row, stored⟩ := finds.stored
  intro absent
  cases stored.symm.trans absent

/-- What a storage becomes in which a session is saved. -/
structure Saved (session saved : Session) (storage reached : Storage) : Prop where
  finds : reached.Finds session.botId session.senderId
  row : reached.sessionRow? session.botId session.senderId = some saved.toRow
  saved_eq : saved = { session with id := saved.id }
  same : SameBut [.sessions] storage.ticked reached

theorem saveSession_of_refuses (refuses : storage.refuses .saveSession = true) :
    outcome (saveSession session) storage = (.error .storeDown, storage) := by
  rw [saveSession, outcome_request_eq, if_pos refuses]

theorem saveSession_of_overflows (current : storage.staleSessions = 0)
    (accepts : storage.refuses .saveSession = false)
    (overflows : storage.store.overflows session = true) :
    outcome (saveSession session) storage = (.error (.column .tooLarge), storage.ticked) := by
  have kept := Store.keep_of_overflows overflows
  rw [outcome_saveSession current (by rw [kept]; exact fun same => by cases same), accepts, kept]
  rfl

theorem saveSession_of_fits (current : storage.staleSessions = 0)
    (accepts : storage.refuses .saveSession = false) (fits : storage.store.overflows session = false)
    (admits : storage.store.Admits session) (apart : storage.store.SessionIdsApart) :
    ∃ saved reached, outcome (saveSession session) storage = (.ok saved, reached) ∧
      Saved session saved storage reached := by
  obtain ⟨saved, store, kept⟩ := Store.keep_of_admits admits fits
  have run : outcome (saveSession session) storage = (.ok saved, { storage.ticked with store }) := by
    rw [outcome_saveSession current (by rw [kept]; exact fun same => by cases same), accepts, kept]
    rfl
  have saves := saveSession_saves session storage
  rw [run] at saves
  have row := saves.row current (Or.inr apart)
  exact ⟨saved, _, run, ⟨saves.current current, saves.apart apart, _, row⟩, row, saves.saved_eq,
    SameBut.kept (Store.keep_blank kept)⟩

end Storage

/-! ### Two stores that have the session of a sender -/

/-- Rows that stand in the same place with the same variables. -/
structure SessionRow.SamePlace (row other : SessionRow) : Prop where
  block : other.currentBlockId = row.currentBlockId
  card : other.currentCardIndex = row.currentCardIndex
  node : other.currentNodeId = row.currentNodeId
  flow : other.currentFlowId = row.currentFlowId
  context : other.context = row.context

/-- Sessions that differ at most in their ids. -/
def Session.Twin (session other : Session) : Prop := other = { session with id := other.id }

theorem Session.Twin.common {session one two : Session} (first : session.Twin one)
    (second : session.Twin two) : one.Twin two := by
  rw [Twin] at first second ⊢
  rw [first]
  exact second

theorem Session.Twin.samePlace {session other : Session} (twin : session.Twin other) :
    session.toRow.SamePlace other.toRow := by
  rw [twin]
  exact ⟨rfl, rfl, rfl, rfl, rfl⟩

/-- Two storages that differ at most in some parts and have the session of a sender, each in a row of
its own. -/
structure Storage.Level (held : SessionRow → SessionRow → Prop) (parts : List Part)
    (botId senderId : String) (storage other : Storage) : Prop where
  same : SameBut parts storage other
  finds : storage.Finds botId senderId
  finds' : other.Finds botId senderId
  rows : ∃ row row', storage.sessionRow? botId senderId = some row ∧
    other.sessionRow? botId senderId = some row' ∧ held row row'

namespace Storage.Level

variable {held held' : SessionRow → SessionRow → Prop} {parts more : List Part}

theorem mono (level : Level held parts botId senderId storage other) (sub : parts ⊆ more)
    (weaker : ∀ row row', held row row' → held' row row') :
    Level held' more botId senderId storage other := by
  obtain ⟨row, row', stored, stored', holds⟩ := level.rows
  exact ⟨level.same.mono sub, level.finds, level.finds', row, row', stored, stored',
    weaker row row' holds⟩

theorem after (level : Level held parts botId senderId storage other) {reached reached' : Storage}
    (kept : SameBut more storage reached) (kept' : SameBut more other reached')
    (sessions : .sessions ∉ more) (lookups : .sessionLookups ∉ more)
    {parts' : List Part} (same : SameBut parts' reached reached') :
    Level held parts' botId senderId reached reached' := by
  obtain ⟨row, row', stored, stored', holds⟩ := level.rows
  refine ⟨same, level.finds.of_same kept sessions lookups,
    level.finds'.of_same kept' sessions lookups, row, row', ?_, ?_, holds⟩
  · rw [kept.sessionRow? sessions]
    exact stored
  · rw [kept'.sessionRow? sessions]
    exact stored'

theorem saves {session' : Session}
    (level : Level held parts session.botId session.senderId storage other)
    (inside : .sessions ∈ parts) (twin : session.Twin session') :
    Coincide (Level held parts session.botId session.senderId)
      (fun ended ended' => session.Twin ended.1 ∧ session.Twin ended'.1 ∧
        Level (fun row row' => row = ended.1.toRow ∧ row' = ended'.1.toRow) parts session.botId
          session.senderId ended.2 ended'.2)
      (outcome (saveSession session) storage) (outcome (saveSession session') other) := by
  have bot : session'.botId = session.botId := by rw [twin]
  have sender : session'.senderId = session.senderId := by rw [twin]
  have finds' : other.Finds session'.botId session'.senderId := by
    rw [bot, sender]
    exact level.finds'
  have refuses := level.same.refuses .saveSession
  have overflows : other.store.overflows session' = storage.store.overflows session :=
    level.same.overflows (by rw [twin])
  cases out : storage.refuses .saveSession with
  | true =>
    rw [saveSession_of_refuses out, saveSession_of_refuses (refuses.trans out)]
    exact .error level
  | false =>
    cases long : storage.store.overflows session with
    | true =>
      rw [saveSession_of_overflows level.finds.current out long,
        saveSession_of_overflows finds'.current (refuses.trans out) (overflows.trans long)]
      exact .error (level.after storage.ticked_same other.ticked_same (by decide) (by decide)
        level.same.ticked)
    | false =>
      obtain ⟨saved, reached, run, saves⟩ := saveSession_of_fits level.finds.current out long
        level.finds.admits level.finds.apart
      obtain ⟨saved', reached', run', saves'⟩ := saveSession_of_fits finds'.current
        (refuses.trans out) (overflows.trans long) finds'.admits finds'.apart
      have only : [Part.sessions] ⊆ parts := List.cons_subset.mpr ⟨inside, List.nil_subset parts⟩
      have same : SameBut parts reached reached' :=
        ((saves.same.mono only).symm.trans level.same.ticked).trans (saves'.same.mono only)
      have found := saves'.finds
      have row := saves'.row
      rw [bot, sender] at found row
      rw [run, run']
      refine .ok ⟨saves.saved_eq, ?_, same, saves.finds, found, _, _, saves.row, row, rfl, rfl⟩
      have moved := saves'.saved_eq
      rw [twin] at moved
      exact moved

end Storage.Level

end Parley
