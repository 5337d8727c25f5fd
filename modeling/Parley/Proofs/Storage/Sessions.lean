import Mathlib.Data.List.Nodup
import Parley.Proofs.Storage.Footprints
import Parley.Proofs.Storage.Tables

/-!
Sessions in the store, seen as rows: what saving a session does to them, and what a look-up finds.
A session that cannot be saved leaves all rows as they are.
-/

namespace Parley

open Schema
open SessionRow (presentOr)
open Storage (Part SameBut Becomes)

def Session.toRow (session : Session) : SessionRow :=
  SessionRow.write session
    { id := session.id, botId := session.botId, senderId := session.senderId }

theorem readEntries_texts (context : Context) :
    readEntries (context.map fun (name, value) => (name, .str value)) = .valid context := by
  induction context with
  | nil => rfl
  | cons entry rest ih => rw [List.map_cons, readEntries, ih]; rfl

theorem Session.readDictionary_contextJson (context : Context) :
    readDictionary (presentOr (.obj []) (contextJson context)) = .valid context := by
  unfold presentOr
  split
  · exact readEntries_texts context
  · rename_i absent
    simp only [contextJson, Json.isPresent, List.isEmpty_map, Bool.not_eq_true',
      Bool.not_eq_false, List.isEmpty_iff] at absent
    rw [absent]
    rfl

/-- A stored session is read as it was. -/
theorem Session.toRow_toSession (session : Session) : session.toRow.toSession = .ok session := by
  have index : readInt (presentOr (.int 0) session.toRow.currentCardIndex.toJson) =
      .valid session.currentCardIndex := by
    change readInt (presentOr (.int 0) (.int session.currentCardIndex)) = _
    unfold presentOr
    split
    · rfl
    · rename_i absent
      simp only [Json.isPresent, ne_eq, decide_not, Bool.not_eq_true', decide_eq_false_iff_not,
        not_not] at absent
      rw [absent]
      rfl
  have context : readDictionary (presentOr (.obj []) session.toRow.context) =
      .valid session.context := readDictionary_contextJson session.context
  rw [SessionRow.toSession, SessionRow.check, index, context]
  rfl

def Store.sessionRows : Store → List SessionRow
  | .memory content => content.sessions.map (·.toRow)
  | .sql content => content.sessions

namespace Storage

def sessionRow? (botId senderId : String) (storage : Storage) : Option SessionRow :=
  storage.store.sessionRows.find? (·.isOf botId senderId)

theorem SameBut.sessionRows {parts : List Part} {storage other : Storage}
    (same : SameBut parts storage other) (out : .sessions ∉ parts) :
    other.store.sessionRows = storage.store.sessionRows := by
  have kept (store : Store) : (store.blank parts).sessionRows = store.sessionRows := by
    cases store <;> simp [Store.blank, Store.sessionRows, Memory.blank, Sql.blank, out]
  rw [← kept other.store, ← kept storage.store]
  exact congrArg (fun blanked : Storage => blanked.store.sessionRows) same.symm

theorem SameBut.sessionRow? {parts : List Part} {storage other : Storage}
    (same : SameBut parts storage other) (out : .sessions ∉ parts) (botId senderId : String) :
    other.sessionRow? botId senderId = storage.sessionRow? botId senderId := by
  rw [Storage.sessionRow?, Storage.sessionRow?, same.sessionRows out]

theorem SameBut.staleSessions {parts : List Part} {storage other : Storage}
    (same : SameBut parts storage other) (out : .sessionLookups ∉ parts) :
    other.staleSessions = storage.staleSessions := by
  have kept := congrArg Storage.staleSessions same
  simpa [blank, out] using kept.symm

/-- What looking up a session row and reading the clock leave. -/
structure LookedUp (storage reached : Storage) : Prop where
  becomes : Becomes [.source, .sessionLookups] storage reached
  current : storage.staleSessions = 0 → reached.staleSessions = 0

namespace LookedUp

theorem store_eq {storage reached : Storage} (read : LookedUp storage reached) :
    reached.store = storage.store := read.becomes.store_eq (by decide)

theorem trans {storage middle reached : Storage} (first : LookedUp storage middle)
    (second : LookedUp middle reached) : LookedUp storage reached :=
  ⟨first.becomes.trans second.becomes, fun fresh => second.current (first.current fresh)⟩

theorem refl (storage : Storage) : LookedUp storage storage :=
  ⟨Becomes.refl _ storage, fun fresh => fresh⟩

theorem draw (storage : Storage) {source : Source}
    (later : storage.source.Precedes source) : LookedUp storage { storage with source } :=
  ⟨(Becomes.draw storage later).mono (by decide), fun fresh => fresh⟩

end LookedUp

theorem lookUpSession_finds (botId senderId : String) (sql : Sql) (storage : Storage) :
    ∃ found reached, outcome (lookUpSession botId senderId sql) storage = (.ok found, reached) ∧
      LookedUp storage reached ∧ (found = none ∨ found = sql.sessionRow? botId senderId) ∧
      (storage.staleSessions = 0 → found = sql.sessionRow? botId senderId) := by
  rw [outcome_lookUpSession]
  split
  · exact ⟨_, _, rfl, LookedUp.refl storage, Or.inr rfl, fun _ => rfl⟩
  · rename_i rest stale
    have outdated : storage.staleSessions ≠ 0 := by
      rw [stale]
      exact Nat.succ_ne_zero rest
    have missed := (Becomes.missSession storage rest).mono
      (by decide : [Part.sessionLookups] ⊆ [.source, .sessionLookups])
    exact ⟨none, _, rfl, ⟨missed, fun fresh => absurd fresh outdated⟩, Or.inl rfl,
      fun fresh => absurd fresh outdated⟩

end Storage

open Storage (LookedUp)

/-! ### Saving -/

/-- How saving a session turns out. -/
inductive SavesSession (session : Session) (storage : Storage) :
    Except Failure Session × Storage → Prop where
  | failed {failure : Failure} {reached : Storage} (read : LookedUp storage reached) :
    SavesSession session storage (.error failure, reached)
  | memory {memory : Memory} {reached : Storage} (content : storage.store = .memory memory)
    (read : LookedUp storage reached) :
    SavesSession session storage (.ok (memory.saveSession session).1,
      { reached with store := .memory (memory.saveSession session).2 })
  | sql {sql written : Sql} {found : Option SessionRow} {saved : Session} {reached : Storage}
    (content : storage.store = .sql sql) (read : LookedUp storage reached)
    (either : found = none ∨ found = sql.sessionRow? session.botId session.senderId)
    (shown : storage.staleSessions = 0 →
      found = sql.sessionRow? session.botId session.senderId)
    (done : sql.saveSession found session = .ok (saved, written)) :
    SavesSession session storage (.ok saved, { reached with store := .sql written })

theorem SavesSession.after {session : Session} {storage middle : Storage}
    {result : Except Failure Session × Storage} (read : LookedUp storage middle)
    (h : SavesSession session middle result) : SavesSession session storage result := by
  cases h with
  | failed more => exact .failed (read.trans more)
  | memory content more => exact .memory (read.store_eq.symm.trans content) (read.trans more)
  | sql content more either shown done =>
    exact .sql (read.store_eq.symm.trans content) (read.trans more) either
      (fun fresh => shown (read.current fresh)) done

namespace Storage

theorem saveSession_attempt (session : Session) {sql : Sql} {storage : Storage}
    (content : storage.store = .sql sql) :
    SavesSession session storage (outcome (saveSession.attempt session sql) storage) := by
  obtain ⟨found, middle, look, read, either, shown⟩ :=
    lookUpSession_finds session.botId session.senderId sql storage
  have reached := read.trans (LookedUp.draw middle (Source.now_issues middle.source))
  rw [saveSession.attempt, outcome_bind_of_ok look, outcome_bind_of_ok (outcome_draw _ _),
    outcome_bind, outcome_ofExcept]
  cases done : sql.saveSession found session with
  | error failure => exact .failed reached
  | ok answer => exact .sql content reached either shown done

theorem saveSession_retrying (session : Session) (attempts : Nat) {sql : Sql} {storage : Storage}
    (content : storage.store = .sql sql) :
    SavesSession session storage
      (outcome (retrying (saveSession.attempt session) attempts) storage) := by
  refine retrying_ends (fun storage ended => (∃ sql, storage.store = .sql sql) →
    SavesSession session storage ended) ?_ ?_ ?_ attempts storage ⟨sql, content⟩
  · rintro storage memory content ⟨sql, other⟩
    cases content.symm.trans other
  · exact fun storage sql content _ => saveSession_attempt session content
  · intro storage sql reached ended content taken later _
    have tried := saveSession_attempt session content
    rw [taken] at tried
    -- an attempt that met a taken key wrote nothing, so the next one starts from the same rows
    cases tried with
    | failed read => exact (later ⟨sql, read.store_eq.trans content⟩).after read

theorem saveSession_saves (session : Session) (storage : Storage) :
    SavesSession session storage (outcome (saveSession session) storage) := by
  rw [saveSession, outcome_request]
  split
  · exact .failed (LookedUp.refl storage)
  · split
    · rename_i memory content
      exact .memory content (LookedUp.draw storage (Source.now_issues storage.source))
    · rename_i sql content
      split
      · exact .failed (LookedUp.refl storage)
      · exact saveSession_retrying session _ content

end Storage

theorem Sql.saveSession_same {found : Option SessionRow} {session saved : Session} {sql written : Sql}
    (done : sql.saveSession found session = .ok (saved, written)) :
    sql.blank [.sessions] = written.blank [.sessions] := by
  unfold Sql.saveSession at done
  split at done
  · cases done
  · split at done
    · cases done
      simp [Sql.blank]
    · dsimp only at done
      split at done
      · cases done
      · cases done
        simp [Sql.blank]

theorem Touches.saveSession (session : Session) :
    Touches [.sessions, .source, .sessionLookups] (Storage.saveSession session) := by
  intro storage
  have saves := Storage.saveSession_saves session storage
  rcases run : outcome (Storage.saveSession session) storage with ⟨answer, reached⟩
  rw [run] at saves
  cases saves with
  | failed read => exact read.becomes.mono (by decide)
  | memory content read =>
    rename_i memory middle
    have written : Becomes [.sessions] middle
        { middle with store := .memory (memory.saveSession session).2 } :=
      Becomes.setMemory (read.store_eq.trans content) (by simp [Memory.blank, Memory.saveSession])
    exact (read.becomes.mono (by decide)).trans (written.mono (by decide))
  | sql content read either shown done =>
    have written := Becomes.setSql (read.store_eq.trans content) (Sql.saveSession_same done)
    exact (read.becomes.mono (by decide)).trans (written.mono (by decide))

theorem SavesSession.store_eq {session : Session} {storage reached : Storage} {failure : Failure}
    (saves : SavesSession session storage (.error failure, reached)) :
    reached.store = storage.store := by
  cases saves with
  | failed read => exact read.store_eq

/-! ### What is stored -/

theorem SessionRow.toSession_same {row : SessionRow} {session : Session}
    (read : row.toSession = .ok session) :
    session.id = row.id ∧ session.botId = row.botId ∧ session.senderId = row.senderId := by
  unfold SessionRow.toSession SessionRow.check at read
  cases index : readInt (presentOr (.int 0) row.currentCardIndex.toJson) <;>
    cases context : readDictionary (presentOr (.obj []) row.context) <;>
    rw [index, context] at read <;>
    cases read
  exact ⟨rfl, rfl, rfl⟩

theorem Memory.sessionRow?_eq (memory : Memory) (botId senderId : String) :
    (Store.memory memory).sessionRows.find? (·.isOf botId senderId) =
      (memory.session? botId senderId).map (·.toRow) := by
  rw [Store.sessionRows, List.find?_map]
  rfl

def Store.SessionIdsApart : Store → Prop
  | .memory _ => True
  | .sql content => (content.sessions.map (·.id)).Nodup

theorem SavesSession.saved_eq {session saved : Session} {storage reached : Storage}
    (saves : SavesSession session storage (.ok saved, reached)) :
    saved = { session with id := saved.id } := by
  cases saves with
  | memory content read => rfl
  | sql content read either shown done =>
    unfold Sql.saveSession at done
    split at done
    · cases done
    · split at done
      · cases done
        rfl
      · dsimp only at done
        split at done
        · cases done
        · cases done
          rfl

theorem Sql.saveSession_row {found : Option SessionRow} {session saved : Session} {sql written : Sql}
    (done : sql.saveSession found session = .ok (saved, written))
    (shown : found = sql.sessionRow? session.botId session.senderId)
    (apart : found = none ∨ (sql.sessions.map (·.id)).Nodup) :
    written.sessionRow? session.botId session.senderId = some saved.toRow := by
  unfold Sql.saveSession at done
  split at done
  · cases done
  · cases found with
    | none =>
      dsimp only at done
      split at done
      · cases done
      · cases done
        rw [Sql.sessionRow?, List.find?_append, ← Sql.sessionRow?, ← shown]
        simp [SessionRow.isOf, SessionRow.write, Session.toRow]
    | some row =>
      have apart := apart.resolve_left (by simp)
      cases done
      have hit := List.find?_some shown.symm
      have member := List.mem_of_find?_eq_some shown.symm
      simp only [SessionRow.isOf, Bool.and_eq_true, decide_eq_true_eq] at hit
      -- the update goes by the id of the row, and must not hit the row of another sender
      have only (other : SessionRow) (member' : other ∈ sql.sessions)
          (same : decide (other.id = row.id) = true) : other = row :=
        List.inj_on_of_nodup_map apart member' member (of_decide_eq_true same)
      have stays : (SessionRow.write session row).isOf session.botId session.senderId := by
        simp [SessionRow.isOf, SessionRow.write, hit]
      have kept : SessionRow.write session row = { session with id := row.id }.toRow := by
        simp [Session.toRow, SessionRow.write, hit]
      rw [← kept]
      exact Table.find?_update shown.symm (by simp) only stays

theorem Sql.saveSession_apart {found : Option SessionRow} {session saved : Session}
    {sql written : Sql} (done : sql.saveSession found session = .ok (saved, written))
    (apart : (sql.sessions.map (·.id)).Nodup) : (written.sessions.map (·.id)).Nodup := by
  unfold Sql.saveSession at done
  split at done
  · cases done
  · split at done
    · cases done
      have kept (row : SessionRow) : (row.write session).id = row.id := rfl
      rw [Table.map_update kept]
      exact apart
    · dsimp only at done
      split at done
      · cases done
      · rename_i fresh
        cases done
        rw [List.map_append, List.nodup_append]
        refine ⟨apart, List.nodup_singleton _, ?_⟩
        intro id member last added same
        obtain ⟨other, kept, rfl⟩ := List.mem_map.mp member
        have taken : other.id = session.id := same.trans (List.mem_singleton.mp added)
        apply fresh
        rw [List.any_eq_true]
        exact ⟨other, kept, by rw [decide_eq_true taken, Bool.true_or]⟩

theorem SavesSession.apart {session : Session} {storage reached : Storage}
    {answer : Except Failure Session} (saves : SavesSession session storage (answer, reached))
    (apart : storage.store.SessionIdsApart) : reached.store.SessionIdsApart := by
  cases saves with
  | failed read =>
    rw [read.store_eq]
    exact apart
  | memory content read => trivial
  | sql content read either shown done =>
    rw [content] at apart
    exact Sql.saveSession_apart done apart

theorem SavesSession.current {session : Session} {storage reached : Storage}
    {answer : Except Failure Session} (saves : SavesSession session storage (answer, reached))
    (fresh : storage.staleSessions = 0) : reached.staleSessions = 0 := by
  cases saves with
  | failed read => exact read.current fresh
  | memory content read => exact read.current fresh
  | sql content read either shown done => exact read.current fresh

theorem SavesSession.row {session saved : Session} {storage reached : Storage}
    (saves : SavesSession session storage (.ok saved, reached)) (fresh : storage.staleSessions = 0)
    (apart : storage.sessionRow? session.botId session.senderId = none ∨
      storage.store.SessionIdsApart) :
    reached.sessionRow? session.botId session.senderId = some saved.toRow := by
  cases saves with
  | memory content read =>
    rename_i memory middle
    have found : (memory.saveSession session).2.session? session.botId session.senderId =
        some (memory.saveSession session).1 :=
      Table.find?_put_same (by simp [Session.isOf]) memory.sessions
    rw [Storage.sessionRow?, Memory.sessionRow?_eq, found]
    rfl
  | sql content read either shown done =>
    have shown := shown fresh
    rw [Storage.sessionRow?, Store.SessionIdsApart.eq_def, content] at apart
    exact Sql.saveSession_row done shown (by rw [shown]; exact apart)

end Parley
