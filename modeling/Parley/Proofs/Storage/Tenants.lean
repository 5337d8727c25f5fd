import Parley.Proofs.Storage.Owners
import Parley.Store.Storage

/-!
A store that several bots share. What it answers a bot, and what becomes of its records, is decided by
the records of that bot alone, if no two bots use the same ids.
-/

namespace Parley

/-! ### The records of some bots -/

def Memory.ofBots (keeps : String → Bool) (memory : Memory) : Memory where
  bots := memory.bots.filter (keeps ·.id)
  sessions := memory.sessions.filter (keeps ·.botId)
  blocks := memory.blocks.filter (keeps ·.botId)
  flows := memory.flows.filter (keeps ·.botId)
  contacts := memory.contacts.filter (keeps ·.botId)
  entries := memory.entries.filter (keeps ·.botId)
  counts := memory.counts.filter (keeps ·.botId)

def Sql.ofBots (keeps : String → Bool) (sql : Sql) : Sql where
  bots := sql.bots.filter (keeps ·.id)
  sessions := sql.sessions.filter (keeps ·.botId)
  blocks := sql.blocks.filter (keeps ·.botId)
  flows := sql.flows.filter (keeps ·.botId)
  contacts := sql.contacts.filter (keeps ·.botId)
  entries := sql.entries.filter (keeps ·.botId)
  counts := sql.counts.filter (keeps ·.botId)

def Store.ofBots (keeps : String → Bool) : Store → Store
  | .memory content => .memory (content.ofBots keeps)
  | .sql content => .sql (content.ofBots keeps)

def Memory.own (botId : String) (memory : Memory) : Memory := memory.ofBots (· = botId)

def Memory.rest (botId : String) (memory : Memory) : Memory := memory.ofBots (· ≠ botId)

def Sql.own (botId : String) (sql : Sql) : Sql := sql.ofBots (· = botId)

def Sql.rest (botId : String) (sql : Sql) : Sql := sql.ofBots (· ≠ botId)

def Store.own (botId : String) (store : Store) : Store := store.ofBots (· = botId)

def Store.rest (botId : String) (store : Store) : Store := store.ofBots (· ≠ botId)

/-! ### Tables that are shared -/

namespace Table

variable {α : Type} {key owner : α → String} {botId id : String} {table : List α}

/-- Under each key stand records of one owner only. -/
def Exclusive (key owner : α → String) (table : List α) : Prop :=
  ∀ record ∈ table, ∀ other ∈ table, key record = key other → owner record = owner other

/-- All records under a key belong to one owner. -/
def Holds (key owner : α → String) (botId id : String) (table : List α) : Prop :=
  ∀ record ∈ table, key record = id → owner record = botId

theorem holds_iff : Holds key owner botId id table ↔
    id ∉ (table.filter (owner · ≠ botId)).map key := by
  simp only [Holds, List.mem_map, List.mem_filter, decide_eq_true_eq, not_exists, not_and, and_imp]
  constructor
  · intro holds record member other same
    exact other (holds record member same)
  · intro free record member same
    exact Decidable.byContradiction fun other => free record member other same

theorem Exclusive.holds (exclusive : Exclusive key owner table) {record : α} (member : record ∈ table)
    (mine : owner record = botId) (named : key record = id) : Holds key owner botId id table := by
  intro other found same
  rw [exclusive other found record member (same.trans named.symm), mine]

theorem Exclusive.put (exclusive : Exclusive key owner table) (holds : Holds key owner botId id table)
    {record : α} (mine : owner record = botId) (named : key record = id) :
    Exclusive key owner (Table.put (key · = id) record table) := by
  intro one first other second same
  rcases mem_put first with old | new <;> rcases mem_put second with old' | new'
  · exact exclusive one old other old' same
  · rw [new'] at same ⊢
    rw [holds one old (same.trans named), mine]
  · rw [new] at same ⊢
    rw [holds other old' (same.symm.trans named), mine]
  · rw [new, new']

theorem Exclusive.update (exclusive : Exclusive key owner table) {qualifies : α → Bool}
    {change : α → α}
    (keeps : ∀ record, key (change record) = key record ∧ owner (change record) = owner record) :
    Exclusive key owner (Table.update qualifies change table) := by
  have kept {record : α} (member : record ∈ Table.update qualifies change table) :
      ∃ old ∈ table, key record = key old ∧ owner record = owner old := by
    rcases mem_update member with unchanged | ⟨old, member, changed⟩
    · exact ⟨record, unchanged, rfl, rfl⟩
    · rw [changed]
      exact ⟨old, member, keeps old⟩
  intro one first other second same
  obtain ⟨old, member, sameKey, sameOwner⟩ := kept first
  obtain ⟨old', member', sameKey', sameOwner'⟩ := kept second
  rw [sameOwner, sameOwner']
  exact exclusive old member old' member' (sameKey.symm.trans (same.trans sameKey'))

theorem Exclusive.append (exclusive : Exclusive key owner table)
    (holds : Holds key owner botId id table) {record : α} (mine : owner record = botId)
    (named : key record = id) : Exclusive key owner (table ++ [record]) := by
  intro one first other second same
  rcases List.mem_append.mp first with first | first <;>
    rcases List.mem_append.mp second with second | second
  · exact exclusive one first other second same
  · rw [List.mem_singleton.mp second] at same ⊢
    rw [holds one first (same.trans named), mine]
  · rw [List.mem_singleton.mp first] at same ⊢
    rw [holds other second (same.symm.trans named), mine]
  · rw [List.mem_singleton.mp first, List.mem_singleton.mp second]

/-! ### What one owner does to them -/

/-- A change of a table is one of the records of an owner. -/
structure Local (owner : α → String) (botId : String) (change : List α → List α) (table : List α) :
    Prop where
  own : (change table).filter (owner · = botId) = change (table.filter (owner · = botId))
  rest : (change table).filter (owner · ≠ botId) = table.filter (owner · ≠ botId)

theorem Local.put {replaces : α → Bool} {record : α} (mine : owner record = botId)
    (owned : ∀ old ∈ table, replaces old → owner old = botId) :
    Local owner botId (Table.put replaces record) table where
  own := filter_put_in (decide_eq_true mine) fun old member hit =>
    decide_eq_true (owned old member hit)
  rest := filter_put_out (by simpa using mine) fun old first => by
    simpa using owned old (List.mem_of_find?_eq_some first) (List.find?_some first)

theorem Local.update {qualifies : α → Bool} {change : α → α}
    (owned : ∀ old ∈ table, qualifies old → owner old = botId ∧ owner (change old) = botId) :
    Local owner botId (Table.update qualifies change) table where
  own := filter_update_in fun old member hit => by simpa using owned old member hit
  rest := by
    cases first : table.find? qualifies with
    | none => rw [update_of_none first]
    | some old =>
      have mine := owned old (List.mem_of_find?_eq_some first) (List.find?_some first)
      rw [← put_eq_update first]
      exact (Local.put mine.2 fun old member hit => (owned old member hit).1).rest

theorem Local.append {record : α} (mine : owner record = botId) :
    Local owner botId (· ++ [record]) table where
  own := by simp [mine]
  rest := by simp [mine]

/-- What an owner finds under a key is one of its records. -/
theorem find?_own (exclusive : Exclusive key owner table) :
    ((table.filter (owner · = botId)).find? (key · = id)).filter (owner · = botId) =
      (table.find? (key · = id)).filter (owner · = botId) := by
  cases first : table.find? (key · = id) with
  | none =>
    have absent : (table.filter (owner · = botId)).find? (key · = id) = none :=
      List.find?_eq_none.mpr fun record member =>
        List.find?_eq_none.mp first record (List.mem_filter.mp member).1
    rw [absent]
  | some record =>
    have member := List.mem_of_find?_eq_some first
    have named := List.find?_some first
    simp only [decide_eq_true_eq] at named
    by_cases mine : owner record = botId
    · rw [find?_filter_in, first]
      intro other found hit
      simp only [decide_eq_true_eq] at hit ⊢
      exact exclusive.holds member mine named other found hit
    · -- under the key stand records of another owner only
      have absent : (table.filter (owner · = botId)).find? (key · = id) = none := by
        rw [List.find?_eq_none]
        intro other found hit
        obtain ⟨found, own⟩ := List.mem_filter.mp found
        simp only [decide_eq_true_eq] at hit own
        exact mine (exclusive.holds found own hit record member named)
      rw [absent, Option.filter_some_neg (by simpa using mine)]
      rfl

end Table

/-! ### Memories that are shared -/

theorem Session.owner_of_isOf {botId senderId : String} {session : Session}
    (hit : session.isOf botId senderId) : session.botId = botId := by
  simp only [Session.isOf, Bool.and_eq_true, decide_eq_true_eq] at hit
  exact hit.1

theorem SessionRow.owner_of_isOf {botId senderId : String} {row : SessionRow}
    (hit : row.isOf botId senderId) : row.botId = botId := by
  simp only [SessionRow.isOf, Bool.and_eq_true, decide_eq_true_eq] at hit
  exact hit.1

theorem Contact.owner_of_isOf {botId senderId : String} {contact : Contact}
    (hit : contact.isOf botId senderId) : contact.botId = botId := by
  simp only [Contact.isOf, Bool.and_eq_true, decide_eq_true_eq] at hit
  exact hit.1

theorem DailyCount.owner_of_isOf {botId : String} {day : Day} {count : DailyCount}
    (hit : count.isOf botId day) : count.botId = botId := by
  simp only [DailyCount.isOf, Bool.and_eq_true, decide_eq_true_eq] at hit
  exact hit.1

/-- No two bots have blocks or flows with one id. -/
structure Memory.Exclusive (memory : Memory) : Prop where
  blocks : Table.Exclusive Block.id Block.botId memory.blocks
  flows : Table.Exclusive Flow.id Flow.botId memory.flows

namespace Memory

variable {botId : String} {memory : Memory}

/-- A change of a memory is one of the records of a bot. -/
structure Local (botId : String) (change : Memory → Memory) (memory : Memory) : Prop where
  own : (change memory).own botId = change (memory.own botId)
  rest : (change memory).rest botId = memory.rest botId
  exclusive : memory.Exclusive → (change memory).Exclusive

theorem session?_own (senderId : String) :
    (memory.own botId).session? botId senderId = memory.session? botId senderId :=
  Table.find?_filter_in fun _ _ hit => decide_eq_true (Session.owner_of_isOf hit)

theorem contact?_own (senderId : String) :
    (memory.own botId).contact? botId senderId = memory.contact? botId senderId :=
  Table.find?_filter_in fun _ _ hit => decide_eq_true (Contact.owner_of_isOf hit)

theorem count?_own (day : Day) : (memory.own botId).count? botId day = memory.count? botId day :=
  Table.find?_filter_in fun _ _ hit => decide_eq_true (DailyCount.owner_of_isOf hit)

theorem block?_own (exclusive : memory.Exclusive) (blockId : String) :
    (memory.own botId).block? botId blockId = memory.block? botId blockId :=
  Table.find?_own exclusive.blocks

theorem flow?_own (exclusive : memory.Exclusive) (flowId : String) :
    (memory.own botId).flow? botId flowId = memory.flow? botId flowId :=
  Table.find?_own exclusive.flows

theorem listBlocks_own (enabledOnly : Bool) :
    (memory.own botId).listBlocks botId enabledOnly = memory.listBlocks botId enabledOnly :=
  Table.filter_filter_in fun block _ hit => by
    simp only [Bool.and_eq_true] at hit
    exact hit.1

theorem listFlows_own (activeOnly : Bool) :
    (memory.own botId).listFlows botId activeOnly = memory.listFlows botId activeOnly :=
  Table.filter_filter_in fun flow _ hit => by
    simp only [Bool.and_eq_true] at hit
    exact hit.1

theorem flagged?_own (flagName : String) :
    (memory.own botId).flagged? botId flagName = memory.flagged? botId flagName := by
  unfold Memory.flagged?
  cases Block.flag? flagName with
  | some flag =>
    have same : (memory.own botId).blocks.find? (fun block => block.botId = botId && flag block) =
        memory.blocks.find? fun block => block.botId = botId && flag block :=
      Table.find?_filter_in fun block _ hit => by
        simp only [Bool.and_eq_true] at hit
        exact hit.1
    simp only [same]
  | none =>
    have same : (memory.own botId).blocks.any (·.botId = botId) =
        memory.blocks.any (·.botId = botId) := Table.any_filter_in fun _ _ hit => hit
    simp only [same]

theorem saveSession_own {session : Session} (mine : session.botId = botId) :
    Local botId (fun memory => (memory.saveSession session).2) memory ∧
      ((memory.own botId).saveSession session).1 = (memory.saveSession session).1 := by
  subst mine
  have saved (id : String) : Table.Local Session.botId session.botId
      (Table.put (·.isOf session.botId session.senderId) { session with id }) memory.sessions :=
    .put rfl fun old _ hit => Session.owner_of_isOf hit
  refine ⟨⟨?_, ?_, fun exclusive => ⟨exclusive.blocks, exclusive.flows⟩⟩, ?_⟩
  · simp only [saveSession, session?_own]
    simp only [own, ofBots, (saved _).own]
  · simp only [saveSession]
    simp only [rest, ofBots, (saved _).rest]
  · simp only [saveSession, session?_own]

theorem saveContact_own {contact : Contact} (mine : contact.botId = botId) :
    Local botId (saveContact contact) memory := by
  subst mine
  have saved : Table.Local Contact.botId contact.botId
      (Table.put (·.isOf contact.botId contact.senderId) contact) memory.contacts :=
    .put rfl fun old _ hit => Contact.owner_of_isOf hit
  refine ⟨?_, ?_, fun exclusive => ⟨exclusive.blocks, exclusive.flows⟩⟩
  · simp only [saveContact, own, ofBots, saved.own]
  · simp only [saveContact, rest, ofBots, saved.rest]

theorem addEntry_own {entry : LogEntry} (mine : entry.botId = botId) :
    Local botId (addEntry entry) memory := by
  have added : Table.Local LogEntry.botId botId (· ++ [entry]) memory.entries := .append mine
  refine ⟨?_, ?_, fun exclusive => ⟨exclusive.blocks, exclusive.flows⟩⟩
  · simp only [addEntry, own, ofBots, added.own]
  · simp only [addEntry, rest, ofBots, added.rest]

theorem bumpCount_own (day : Day) (direction : Direction) (newUser : Bool) :
    Local botId (fun memory => (memory.bumpCount botId day direction newUser).2) memory ∧
      ((memory.own botId).bumpCount botId day direction newUser).1 =
        (memory.bumpCount botId day direction newUser).1 := by
  have mine : (((memory.count? botId day).getD { botId, day }).bump direction newUser).botId =
      botId := by
    cases found : memory.count? botId day with
    | none => rfl
    | some count =>
      have owned : count.botId = botId := DailyCount.owner_of_isOf (List.find?_some found)
      exact owned
  have counted : Table.Local DailyCount.botId botId (Table.put (·.isOf botId day)
      (((memory.count? botId day).getD { botId, day }).bump direction newUser)) memory.counts :=
    .put mine fun old _ hit => DailyCount.owner_of_isOf hit
  refine ⟨⟨?_, ?_, fun exclusive => ⟨exclusive.blocks, exclusive.flows⟩⟩, ?_⟩
  · simp only [bumpCount, count?_own]
    simp only [own, ofBots, counted.own]
  · simp only [bumpCount]
    simp only [rest, ofBots, counted.rest]
  · simp only [bumpCount, count?_own]

theorem saveBlock_own {block : Block} (mine : block.botId = botId)
    (holds : Table.Holds Block.id Block.botId botId block.id memory.blocks) :
    Local botId (saveBlock block) memory := by
  have saved : Table.Local Block.botId botId (Table.put (·.id = block.id) block) memory.blocks :=
    .put mine fun old member hit => holds old member (of_decide_eq_true hit)
  refine ⟨?_, ?_, fun exclusive => ⟨exclusive.blocks.put holds mine rfl, exclusive.flows⟩⟩
  · simp only [saveBlock, own, ofBots, saved.own]
  · simp only [saveBlock, rest, ofBots, saved.rest]

end Memory

/-! ### Databases that are shared -/

/-- No two bots have sessions, blocks or flows with one id. -/
structure Sql.Exclusive (sql : Sql) : Prop where
  sessions : Table.Exclusive SessionRow.id SessionRow.botId sql.sessions
  blocks : Table.Exclusive BlockRow.id BlockRow.botId sql.blocks
  flows : Table.Exclusive FlowRow.id FlowRow.botId sql.flows

namespace Sql

variable {botId : String} {sql : Sql}

/-- A change of a database that may fail is one of the records of a bot. -/
structure Local {α : Type} (botId : String) (change : Sql → Except Failure (α × Sql)) (sql : Sql) :
    Prop where
  own : change (sql.own botId) = (change sql).map fun done => (done.1, done.2.own botId)
  rest : ∀ done, change sql = .ok done → done.2.rest botId = sql.rest botId
  exclusive : ∀ done, change sql = .ok done → sql.Exclusive → done.2.Exclusive

theorem sessionRow?_own (senderId : String) :
    (sql.own botId).sessionRow? botId senderId = sql.sessionRow? botId senderId :=
  Table.find?_filter_in fun _ _ hit => decide_eq_true (SessionRow.owner_of_isOf hit)

theorem contact?_own (senderId : String) :
    (sql.own botId).contact? botId senderId = sql.contact? botId senderId :=
  Table.find?_filter_in fun _ _ hit => decide_eq_true (Contact.owner_of_isOf hit)

theorem count?_own (day : Day) : (sql.own botId).count? botId day = sql.count? botId day :=
  Table.find?_filter_in fun _ _ hit => decide_eq_true (DailyCount.owner_of_isOf hit)

theorem block?_own (exclusive : sql.Exclusive) (blockId : String) :
    (sql.own botId).block? botId blockId = sql.block? botId blockId := by
  have same : (sql.own botId).blockRow? botId blockId = sql.blockRow? botId blockId :=
    Table.find?_own exclusive.blocks
  rw [block?, block?, same]

theorem flow?_own (exclusive : sql.Exclusive) (flowId : String) :
    (sql.own botId).flow? botId flowId = sql.flow? botId flowId := by
  have same : (sql.own botId).flowRow? botId flowId = sql.flowRow? botId flowId :=
    Table.find?_own exclusive.flows
  rw [flow?, flow?, same]

theorem blockRows_own : (sql.own botId).blockRows botId = sql.blockRows botId := by
  have same : (sql.own botId).blocks.filter (·.botId = botId) =
      sql.blocks.filter (·.botId = botId) := Table.filter_filter_in fun _ _ hit => hit
  rw [blockRows, blockRows, same]

theorem flowRows_own : (sql.own botId).flowRows botId = sql.flowRows botId := by
  have same : (sql.own botId).flows.filter (·.botId = botId) =
      sql.flows.filter (·.botId = botId) := Table.filter_filter_in fun _ _ hit => hit
  rw [flowRows, flowRows, same]

theorem saveSession_answer {found : Option SessionRow} {session : Session} {done : Session × Sql}
    (saved : sql.saveSession found session = .ok done) :
    done.1 = { session with id := (found.map (·.id)).getD session.id } := by
  unfold saveSession at saved
  split at saved
  · cases saved
  · cases found with
    | some row =>
      cases saved
      rfl
    | none =>
      dsimp only at saved
      split at saved
      · cases saved
      · cases saved
        rfl

theorem flagged?_own (flag : BlockRow → Bool) :
    (sql.own botId).flagged? botId flag = sql.flagged? botId flag := by
  rw [flagged?, flagged?, blockRows_own]

theorem saveSession_own {found : Option SessionRow} {session : Session}
    (mine : session.botId = botId)
    (holds : Table.Holds SessionRow.id SessionRow.botId botId ((found.map (·.id)).getD session.id)
      sql.sessions) : Local botId (saveSession found session) sql := by
  subst mine
  by_cases long : Cell.isLong session.currentCardIndex
  · refine ⟨?_, ?_, ?_⟩ <;> simp [saveSession, long, Except.map]
  cases found with
  | some row =>
    have written : Table.Local SessionRow.botId session.botId
        (Table.update (·.id = row.id) (SessionRow.write session)) sql.sessions :=
      .update fun old member hit => by
        have mine := holds old member (of_decide_eq_true hit)
        exact ⟨mine, mine⟩
    refine ⟨?_, ?_, ?_⟩
    · simp only [saveSession, long, Except.map, Bool.false_eq_true, if_false]
      simp only [own, ofBots, written.own]
    · intro done saved
      simp only [saveSession, long, Bool.false_eq_true, if_false, Except.ok.injEq] at saved
      subst saved
      simp only [rest, ofBots, written.rest]
    · intro done saved exclusive
      simp only [saveSession, long, Bool.false_eq_true, if_false, Except.ok.injEq] at saved
      subst saved
      exact ⟨exclusive.sessions.update fun _ => ⟨rfl, rfl⟩, exclusive.blocks, exclusive.flows⟩
  | none =>
    have taken : (sql.own session.botId).sessions.any (fun row =>
        row.id = session.id || row.isOf session.botId session.senderId) =
        sql.sessions.any fun row =>
          row.id = session.id || row.isOf session.botId session.senderId :=
      Table.any_filter_in fun row member hit => by
        rcases Bool.or_eq_true _ _ ▸ hit with same | same
        · exact decide_eq_true (holds row member (of_decide_eq_true same))
        · exact decide_eq_true (SessionRow.owner_of_isOf same)
    have added : Table.Local SessionRow.botId session.botId (· ++ [SessionRow.write session
        { id := session.id, botId := session.botId, senderId := session.senderId }]) sql.sessions :=
      .append rfl
    by_cases used : sql.sessions.any fun row =>
        row.id = session.id || row.isOf session.botId session.senderId
    · refine ⟨?_, ?_, ?_⟩ <;> simp only [saveSession, long, taken, used, Except.map] <;> simp
    · refine ⟨?_, ?_, ?_⟩
      · simp only [saveSession, long, taken, used, Except.map, Bool.false_eq_true, if_false]
        simp only [own, ofBots, added.own]
      · intro done saved
        simp only [saveSession, long, used, Bool.false_eq_true, if_false, Except.ok.injEq] at saved
        subst saved
        simp only [rest, ofBots, added.rest]
      · intro done saved exclusive
        simp only [saveSession, long, used, Bool.false_eq_true, if_false, Except.ok.injEq] at saved
        subst saved
        exact ⟨exclusive.sessions.append holds rfl rfl, exclusive.blocks, exclusive.flows⟩

def writes (change : Sql → Except Failure Sql) (sql : Sql) : Except Failure (Unit × Sql) :=
  (change sql).map fun written => ((), written)

theorem Local.write {change : Sql → Except Failure Sql}
    (own : change (sql.own botId) = (change sql).map (·.own botId))
    (rest : ∀ written, change sql = .ok written → written.rest botId = sql.rest botId ∧
      (sql.Exclusive → written.Exclusive)) : Local botId (writes change) sql := by
  refine ⟨?_, ?_, ?_⟩
  · rw [writes, writes, own]
    cases change sql <;> rfl
  · rintro ⟨_, written⟩ done
    cases run : change sql <;> rw [writes, run] at done <;> cases done
    exact (rest written run).1
  · rintro ⟨_, written⟩ done
    cases run : change sql <;> rw [writes, run] at done <;> cases done
    exact (rest written run).2

theorem addEntry_own {entry : LogEntry} (mine : entry.botId = botId)
    (holds : Table.Holds LogEntry.id LogEntry.botId botId entry.id sql.entries) :
    Local botId (writes (addEntry entry)) sql := by
  have taken : (sql.own botId).entries.any (·.id = entry.id) = sql.entries.any (·.id = entry.id) :=
    Table.any_filter_in fun old member hit =>
      decide_eq_true (holds old member (of_decide_eq_true hit))
  have added : Table.Local LogEntry.botId botId (· ++ [entry]) sql.entries := .append mine
  apply Local.write
  · unfold addEntry
    rw [taken]
    split
    · rfl
    · simp only [own, ofBots, added.own, Except.map]
  · intro written done
    unfold addEntry at done
    split at done <;> cases done
    exact ⟨by simp only [rest, ofBots, added.rest],
      fun exclusive => ⟨exclusive.sessions, exclusive.blocks, exclusive.flows⟩⟩

theorem insertContact_own {contact : Contact} (mine : contact.botId = botId) :
    Local botId (writes (insertContact contact)) sql := by
  subst mine
  have taken : (sql.own contact.botId).contacts.any (·.isOf contact.botId contact.senderId) =
      sql.contacts.any (·.isOf contact.botId contact.senderId) :=
    Table.any_filter_in fun old _ hit => decide_eq_true (Contact.owner_of_isOf hit)
  have added : Table.Local Contact.botId contact.botId (· ++ [contact]) sql.contacts := .append rfl
  apply Local.write
  · unfold insertContact
    rw [taken]
    split
    · rfl
    · simp only [own, ofBots, added.own, Except.map]
  · intro written done
    unfold insertContact at done
    split at done <;> cases done
    exact ⟨by simp only [rest, ofBots, added.rest],
      fun exclusive => ⟨exclusive.sessions, exclusive.blocks, exclusive.flows⟩⟩

theorem updateContact_own {contact : Contact} (mine : contact.botId = botId) :
    Local botId (writes fun sql => .ok (updateContact contact sql)) sql := by
  subst mine
  have written : Table.Local Contact.botId contact.botId
      (Table.update (·.isOf contact.botId contact.senderId) fun _ => contact) sql.contacts :=
    .update fun old _ hit => ⟨Contact.owner_of_isOf hit, rfl⟩
  apply Local.write
  · simp only [updateContact, own, ofBots, written.own, Except.map]
  · intro updated done
    cases done
    exact ⟨by simp only [updateContact, rest, ofBots, written.rest],
      fun exclusive => ⟨exclusive.sessions, exclusive.blocks, exclusive.flows⟩⟩

theorem addToCount_own (day : Day) (direction : Direction) (newUser : Bool) :
    Local botId (writes fun sql => .ok (addToCount botId day direction newUser sql).2) sql ∧
      ((sql.own botId).addToCount botId day direction newUser).1 =
        (sql.addToCount botId day direction newUser).1 := by
  have counted : Table.Local DailyCount.botId botId
      (Table.update (·.isOf botId day) (·.bump direction newUser)) sql.counts :=
    .update fun old _ hit => by
      have mine : old.botId = botId := DailyCount.owner_of_isOf hit
      exact ⟨mine, mine⟩
  refine ⟨.write ?_ fun added done => ?_, ?_⟩
  · simp only [addToCount, own, ofBots, counted.own, Except.map]
  · cases done
    exact ⟨by simp only [addToCount, rest, ofBots, counted.rest],
      fun exclusive => ⟨exclusive.sessions, exclusive.blocks, exclusive.flows⟩⟩
  · exact Table.any_filter_in fun _ _ hit => decide_eq_true (DailyCount.owner_of_isOf hit)

theorem addToCount_absent {day : Day} {direction : Direction} {newUser : Bool}
    (absent : (sql.addToCount botId day direction newUser).1 = false) :
    (sql.addToCount botId day direction newUser).2 = sql := by
  have none : sql.counts.find? (·.isOf botId day) = none := by
    simpa only [addToCount, List.any_eq_false, List.find?_eq_none] using absent
  rw [addToCount, Table.update_of_none none]

theorem insertCount_own (day : Day) (direction : Direction) (newUser : Bool) :
    Local botId (writes (insertCount botId day direction newUser)) sql := by
  have taken : (sql.own botId).counts.any (·.isOf botId day) = sql.counts.any (·.isOf botId day) :=
    Table.any_filter_in fun old _ hit => decide_eq_true (DailyCount.owner_of_isOf hit)
  have added : Table.Local DailyCount.botId botId
      (· ++ [DailyCount.bump direction newUser { botId, day }]) sql.counts := .append rfl
  apply Local.write
  · unfold insertCount
    rw [taken]
    split
    · rfl
    · simp only [own, ofBots, added.own, Except.map]
  · intro written done
    unfold insertCount at done
    split at done <;> cases done
    exact ⟨by simp only [rest, ofBots, added.rest],
      fun exclusive => ⟨exclusive.sessions, exclusive.blocks, exclusive.flows⟩⟩

theorem saveBlock_own {block : Block} (mine : block.botId = botId)
    (holds : Table.Holds BlockRow.id BlockRow.botId botId block.id sql.blocks) :
    Local botId (writes (saveBlock block)) sql := by
  subst mine
  have taken : (sql.own block.botId).blocks.any (·.id = block.id) =
      sql.blocks.any (·.id = block.id) :=
    Table.any_filter_in fun old member hit =>
      decide_eq_true (holds old member (of_decide_eq_true hit))
  have listed : (sql.own block.botId).blocks.filter (·.botId = block.botId) =
      sql.blocks.filter (·.botId = block.botId) := Table.filter_filter_in fun _ _ hit => hit
  have first : (sql.own block.botId).blocks.find? (·.id = block.id) =
      sql.blocks.find? (·.id = block.id) :=
    Table.find?_filter_in fun old member hit =>
      decide_eq_true (holds old member (of_decide_eq_true hit))
  -- the row that is written is the bot's, and has the id of the block
  have row (seq : Cell) : ((sql.blocks.find? (·.id = block.id)).getD
        { id := block.id, seq, botId := block.botId, createdAt := block.createdAt }).id = block.id ∧
      ((sql.blocks.find? (·.id = block.id)).getD
        { id := block.id, seq, botId := block.botId, createdAt := block.createdAt }).botId =
          block.botId := by
    cases hit : sql.blocks.find? (·.id = block.id) with
    | none => exact ⟨rfl, rfl⟩
    | some old =>
      have named := List.find?_some hit
      simp only [decide_eq_true_eq] at named
      exact ⟨named, holds old (List.mem_of_find?_eq_some hit) named⟩
  have written (seq : Cell) : Table.Local BlockRow.botId block.botId
      (Table.put (·.id = block.id) (BlockRow.write block
        ((sql.blocks.find? (·.id = block.id)).getD
          { id := block.id, seq, botId := block.botId, createdAt := block.createdAt }))) sql.blocks :=
    .put (row seq).2 fun old member hit => holds old member (of_decide_eq_true hit)
  apply Local.write
  · rw [saveBlock_eq, saveBlock_eq, taken, listed, first]
    generalize (if sql.blocks.any (·.id = block.id) then _ else _ : Except Failure Cell) = numbered
    cases numbered with
    | error failure => rfl
    | ok seq => simp only [own, ofBots, (written seq).own, Except.map]
  · intro saved done
    rw [saveBlock_eq] at done
    generalize (if sql.blocks.any (·.id = block.id) then _ else _ : Except Failure Cell) = numbered
      at done
    cases numbered with
    | error failure => cases done
    | ok seq =>
      cases done
      exact ⟨by simp only [rest, ofBots, (written seq).rest], fun exclusive =>
        ⟨exclusive.sessions, exclusive.blocks.put holds (row seq).2 (row seq).1, exclusive.flows⟩⟩

end Sql

end Parley
