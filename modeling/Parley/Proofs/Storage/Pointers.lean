import Parley.Proofs.Storage.Sessions

/-!
What all stored sessions have in common, whatever is asked of the store: each is parked in one place
at most, and a sender has one session with a bot, which keeps its id.
-/

namespace Parley

open Storage (Part Becomes LookedUp)

/-- A row is parked in a block, in a flow, or in neither. Outside a block it names no card, and outside
a flow no flow. -/
structure SessionRow.Placed (row : SessionRow) : Prop where
  single : row.currentBlockId = none ∨ row.currentNodeId = none
  card : row.currentBlockId = none → row.currentCardIndex = .int 0
  flow : row.currentNodeId = none → row.currentFlowId = none

def SessionRow.owner (row : SessionRow) : String × String := (row.botId, row.senderId)

def SessionRow.identity (row : SessionRow) : (String × String) × String := (row.owner, row.id)

def Store.identities (store : Store) : List ((String × String) × String) :=
  store.sessionRows.map (·.identity)

structure Store.Tidy (store : Store) : Prop where
  placed : ∀ row ∈ store.sessionRows, row.Placed
  owners : (store.sessionRows.map (·.owner)).Nodup

/-- Sessions are only added, and a tidy store stays tidy. -/
structure Storage.Evolves (storage reached : Storage) : Prop where
  identities : storage.store.identities <+: reached.store.identities
  tidy : storage.store.Tidy → reached.store.Tidy

instance : IsPreorder Storage Storage.Evolves where
  refl _ := ⟨List.prefix_refl _, fun tidy => tidy⟩
  trans _ _ _ first second :=
    ⟨first.identities.trans second.identities, fun tidy => second.tidy (first.tidy tidy)⟩

theorem SessionRow.isOf_iff {row : SessionRow} {botId senderId : String} :
    row.isOf botId senderId = true ↔ row.owner = (botId, senderId) := by
  simp [SessionRow.isOf, SessionRow.owner]

theorem Storage.sessionRow?_owner {storage : Storage} {botId senderId : String} {row : SessionRow}
    {session : Session} (stored : storage.sessionRow? botId senderId = some row)
    (valid : row.toSession = .ok session) : session.botId = botId ∧ session.senderId = senderId := by
  obtain ⟨_, bot, sender⟩ := SessionRow.toSession_same valid
  rw [bot, sender]
  exact Prod.mk.inj (SessionRow.isOf_iff.mp (List.find?_some stored))

theorem Store.find?_identities (store : Store) (botId senderId : String) :
    store.identities.find? (·.1 = (botId, senderId)) =
      (store.sessionRows.find? (·.isOf botId senderId)).map (·.identity) := by
  have same : (fun row : SessionRow => decide (row.identity.1 = (botId, senderId))) =
      (·.isOf botId senderId) := by
    funext row
    rw [Bool.eq_iff_iff, SessionRow.isOf_iff, decide_eq_true_iff]
    rfl
  rw [Store.identities, List.find?_map, ← same]
  rfl

/-- A session that was created is found for good, under its id. -/
theorem Storage.Evolves.finds {storage reached : Storage} (evolves : Evolves storage reached)
    {botId senderId : String} {row : SessionRow}
    (found : storage.sessionRow? botId senderId = some row) :
    ∃ row', reached.sessionRow? botId senderId = some row' ∧ row'.id = row.id := by
  obtain ⟨added, appended⟩ := evolves.identities
  have before := storage.store.find?_identities botId senderId
  have after := reached.store.find?_identities botId senderId
  rw [Storage.sessionRow?] at found
  rw [← appended, List.find?_append, before, found] at after
  obtain ⟨row', found', same⟩ := Option.map_eq_some_iff.mp after.symm
  exact ⟨row', found', congrArg Prod.snd same⟩

/-! ### Sessions that are placed -/

theorem Session.toRow_placed_of_atBlock (session : Session) (blockId : Option String) (index : Int)
    (context : Context) : (session.atBlock blockId index context).toRow.Placed where
  single := Or.inr rfl
  card left := by
    change blockId = none at left
    subst left
    rfl
  flow _ := rfl

theorem Session.toRow_placed_of_atNode (session : Session) (nodeId flowId : Option String)
    (context : Context) : (session.atNode nodeId flowId context).toRow.Placed where
  single := Or.inl rfl
  card _ := rfl
  flow left := by
    change nodeId = none at left
    subst left
    rfl

theorem Session.toRow_placed_of_reset (session : Session) : session.reset.toRow.Placed :=
  session.toRow_placed_of_atBlock none 0 []

theorem SessionRow.write_placed {session : Session} (placed : session.toRow.Placed)
    (row : SessionRow) : (row.write session).Placed :=
  ⟨placed.single, placed.card, placed.flow⟩

/-! ### Saving -/

namespace Storage.Evolves

theorem of_sessionRows_eq {storage reached : Storage}
    (same : reached.store.sessionRows = storage.store.sessionRows) : Evolves storage reached := by
  refine ⟨?_, fun tidy => ⟨?_, ?_⟩⟩
  · simp only [Store.identities, same, List.prefix_refl]
  · rw [same]
    exact tidy.placed
  · rw [same]
    exact tidy.owners

theorem of_becomes {parts : List Part} {storage reached : Storage}
    (becomes : Becomes parts storage reached) (out : .sessions ∉ parts) : Evolves storage reached :=
  of_sessionRows_eq (becomes.same.sessionRows out)

theorem of_rewritten {storage reached : Storage}
    (same : reached.store.identities = storage.store.identities)
    (rows : ∀ row ∈ reached.store.sessionRows, row ∈ storage.store.sessionRows ∨ row.Placed) :
    Evolves storage reached := by
  refine ⟨?_, fun tidy => ⟨fun row member => ?_, ?_⟩⟩
  · simp only [same, List.prefix_refl]
  · rcases rows row member with kept | placed
    · exact tidy.placed row kept
    · exact placed
  · have owners (store : Store) :
        store.sessionRows.map (·.owner) = store.identities.map Prod.fst := by
      rw [Store.identities, List.map_map]
      rfl
    rw [owners, same, ← owners]
    exact tidy.owners

theorem of_added {storage reached : Storage} {row : SessionRow} (placed : row.Placed)
    (same : reached.store.sessionRows = storage.store.sessionRows ++ [row])
    (absent : ∀ other ∈ storage.store.sessionRows, other.owner ≠ row.owner) :
    Evolves storage reached := by
  refine ⟨?_, fun tidy => ⟨fun other member => ?_, ?_⟩⟩
  · rw [Store.identities, Store.identities, same, List.map_append]
    exact List.prefix_append _ _
  · rw [same] at member
    rcases List.mem_append.mp member with kept | added
    · exact tidy.placed other kept
    · rw [List.mem_singleton.mp added]
      exact placed
  · rw [same, List.map_append, List.nodup_append]
    refine ⟨tidy.owners, List.nodup_singleton _, ?_⟩
    intro owner member last added
    obtain ⟨other, kept, rfl⟩ := List.mem_map.mp member
    rw [List.mem_singleton.mp added]
    exact absent other kept

theorem of_memory {session : Session} (placed : session.toRow.Placed) {memory : Memory}
    {storage reached : Storage} (content : storage.store = .memory memory)
    (saved : reached.store = .memory (memory.saveSession session).2) : Evolves storage reached := by
  cases found : memory.sessions.find? (·.isOf session.botId session.senderId) with
  | none =>
    apply of_added placed
    · rw [content, saved, Store.sessionRows, Store.sessionRows, Memory.saveSession, Memory.session?,
        found, Table.put_of_none found, List.map_append]
      rfl
    · intro other member same
      rw [content, Store.sessionRows] at member
      obtain ⟨stored, kept, rfl⟩ := List.mem_map.mp member
      exact List.find?_eq_none.mp found stored kept (SessionRow.isOf_iff.mpr same)
  | some old =>
    have hit : old.isOf session.botId session.senderId := List.find?_some found
    have owned : old.toRow.owner = (session.botId, session.senderId) := SessionRow.isOf_iff.mp hit
    apply of_rewritten
    · rw [content, saved, Store.identities, Store.identities, Store.sessionRows, Store.sessionRows,
        Memory.saveSession, Memory.session?, found, List.map_map, List.map_map]
      exact Table.map_put found (Prod.ext owned rfl)
    · intro row member
      rw [saved, Store.sessionRows, Memory.saveSession, Memory.session?, found] at member
      obtain ⟨stored, kept, rfl⟩ := List.mem_map.mp member
      rw [content]
      rcases Table.mem_put kept with kept | rfl
      · exact Or.inl (List.mem_map_of_mem kept)
      · exact Or.inr ⟨placed.single, placed.card, placed.flow⟩

theorem of_sql {session answered : Session} (placed : session.toRow.Placed)
    {found : Option SessionRow} {sql written : Sql} {storage reached : Storage}
    (content : storage.store = .sql sql)
    (done : sql.saveSession found session = .ok (answered, written))
    (saved : reached.store = .sql written) : Evolves storage reached := by
  unfold Sql.saveSession at done
  split at done
  · cases done
  · split at done
    · cases done
      have kept (row : SessionRow) : (row.write session).identity = row.identity := rfl
      apply of_rewritten
      · rw [content, saved]
        exact Table.map_update kept sql.sessions
      · intro row member
        rw [saved] at member
        rw [content]
        rcases Table.mem_update member with kept | ⟨old, _, rfl⟩
        · exact Or.inl kept
        · exact Or.inr (SessionRow.write_placed placed old)
    · dsimp only at done
      split at done
      · cases done
      · rename_i fresh
        cases done
        -- the look-up may have been out of date, but the insertion checks the owner again
        apply of_added (SessionRow.write_placed placed _)
        · rw [content, saved]
          rfl
        · intro other member same
          rw [content] at member
          have owned : other.isOf session.botId session.senderId := SessionRow.isOf_iff.mpr same
          apply fresh
          rw [List.any_eq_true]
          exact ⟨other, member, by rw [owned, Bool.or_true]⟩

end Storage.Evolves

theorem SavesSession.evolves {session : Session} {storage reached : Storage}
    {answer : Except Failure Session} (saves : SavesSession session storage (answer, reached))
    (placed : session.toRow.Placed) : Storage.Evolves storage reached := by
  cases saves with
  | failed read => exact Storage.Evolves.of_becomes read.becomes (by decide)
  | memory content read => exact Storage.Evolves.of_memory placed content rfl
  | sql content read either shown done => exact Storage.Evolves.of_sql placed content done rfl

theorem Within.saveSession {session : Session} (placed : session.toRow.Placed) :
    Within Storage.Evolves (Storage.saveSession session) := by
  intro storage
  exact (Storage.saveSession_saves session storage).evolves placed

end Parley
