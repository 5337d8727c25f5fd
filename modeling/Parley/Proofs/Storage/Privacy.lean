import Parley.Proofs.Storage.Confinement
import Parley.Proofs.Storage.Content
import Parley.Proofs.Storage.Parts

/-!
Each request of a bot keeps to the records of the bot: what it answers, and what it writes.
-/

namespace Parley

variable {α : Type} {tenant : Tenant} {pre : Prop} {P : α → Prop}

/-! ### Ids that are keys -/

theorem Table.Exclusive.of_apart {key owner : α → String} {table : List α}
    (apart : (table.map key).Nodup) : Table.Exclusive key owner table :=
  fun _ member _ member' same => congrArg owner (List.inj_on_of_nodup_map apart member member' same)

/-- Where an id is that of one record only, no two bots share it. -/
theorem Store.Sound.exclusive {store : Store} (sound : store.Sound) (apart : store.SessionIdsApart) :
    store.Exclusive := by
  cases store with
  | memory memory => exact ⟨.of_apart sound.blockIds, .of_apart sound.flowIds⟩
  | sql sql => exact ⟨.of_apart apart, .of_apart sound.blockIds, .of_apart sound.flowIds⟩

namespace KeepsTo

/-! ### Reading -/

theorem getBlock (blockId : String) :
    KeepsTo tenant pre (fun found => ∀ block ∈ found, block.botId = tenant.botId)
      (Storage.getBlock tenant.botId blockId) := by
  apply KeepsTo.reading
  · intro memory exclusive
    exact ⟨memory.block?_own exclusive blockId, fun block found => (Memory.block?_same found).2.2⟩
  · intro sql exclusive
    refine ⟨sql.block?_own exclusive blockId, fun found answered block hit => ?_⟩
    rw [hit] at answered
    obtain ⟨row, _, read, _, owned⟩ := Sql.block?_same answered
    exact (BlockRow.toBlock_same read).2.trans owned

theorem listBlocks (enabledOnly : Bool) :
    KeepsTo tenant pre (fun listed => ∀ block ∈ listed, block.botId = tenant.botId)
      (Storage.listBlocks tenant.botId enabledOnly) := by
  change KeepsTo tenant pre _ (Storage.request _ _ fun content =>
    Storage.ofExcept (.ok (content.listBlocks tenant.botId enabledOnly)))
  apply KeepsTo.reading
  · intro memory _
    refine ⟨memory.listBlocks_own enabledOnly, fun block member => ?_⟩
    have kept := (List.mem_filter.mp member).2
    simp only [Bool.and_eq_true, decide_eq_true_eq] at kept
    exact kept.1
  · intro sql _
    refine ⟨by simp only [Sql.listBlocks, sql.blockRows_own], fun listed answered block member => ?_⟩
    cases answered
    obtain ⟨row, scanned, read⟩ := mem_validOnly_map.mp member
    have sorted := List.mem_mergeSort.mp (List.mem_filter.mp scanned).1
    have owned := (List.mem_filter.mp sorted).2
    exact (BlockRow.toBlock_same read).2.trans (of_decide_eq_true owned)

theorem getFlow (flowId : String) :
    KeepsTo tenant pre (fun _ => True) (Storage.getFlow tenant.botId flowId) :=
  KeepsTo.reading (fun memory exclusive => ⟨memory.flow?_own exclusive flowId, trivial⟩)
    fun sql exclusive => ⟨sql.flow?_own exclusive flowId, fun _ _ => trivial⟩

theorem listFlows (activeOnly : Bool) :
    KeepsTo tenant pre (fun _ => True) (Storage.listFlows tenant.botId activeOnly) := by
  change KeepsTo tenant pre _ (Storage.request _ _ fun content =>
    Storage.ofExcept (.ok (content.listFlows tenant.botId activeOnly)))
  apply KeepsTo.reading
  · intro memory _
    exact ⟨memory.listFlows_own activeOnly, trivial⟩
  · intro sql _
    exact ⟨by simp only [Sql.listFlows, sql.flowRows_own], fun _ _ => trivial⟩

theorem findFlagged (flagName : String) :
    KeepsTo tenant pre (fun _ => True) (Storage.findFlagged tenant.botId flagName) := by
  intro storage
  have same : (storage.own tenant.botId).flagged? tenant.botId flagName =
      storage.flagged? tenant.botId flagName := by
    rw [Storage.flagged?, Storage.flagged?, Storage.own_store]
    cases storage.store with
    | memory memory => simp only [Store.own_memory, memory.flagged?_own, Storage.own]
    | sql sql => simp only [Store.own_sql, sql.flagged?_own, Storage.own]
  refine ⟨Nat.le_of_eq (by rw [Storage.outcome_findFlagged_eq]), fun _ guards _ => ?_⟩
  rw [Storage.outcome_findFlagged_eq, Storage.outcome_findFlagged_eq, same]
  exact ⟨guards, rfl, fun _ _ => trivial⟩

/-! ### Sessions -/

theorem lookUpSession {botId : String} (mine : botId = tenant.botId) (senderId : String)
    {storage : Storage} {sql : Sql} (content : storage.store = .sql sql) :
    ConfinedAt tenant pre (fun found => ∀ row ∈ found,
        row.botId = tenant.botId ∧ row.id ∉ tenant.others.sessionIds) storage
      (Storage.lookUpSession botId senderId sql)
      (Storage.lookUpSession botId senderId (sql.own tenant.botId)) := by
  subst mine
  have same : Storage.lookUpSession tenant.botId senderId (sql.own tenant.botId) =
      Storage.lookUpSession tenant.botId senderId sql := by
    simp only [Storage.lookUpSession, sql.sessionRow?_own]
  rw [same]
  refine ⟨?_, fun _ guards _ => ?_⟩
  · rw [Storage.outcome_lookUpSession]
    split <;> exact Nat.le_refl _
  · rw [Storage.outcome_lookUpSession, Storage.outcome_lookUpSession]
    cases stale : storage.staleSessions with
    | zero =>
      have still : (storage.own tenant.botId).staleSessions = 0 := stale
      rw [still]
      refine ⟨guards, rfl, fun found answered row hit => ?_⟩
      cases answered
      have owned : row.botId = tenant.botId := SessionRow.owner_of_isOf (List.find?_some hit)
      have exclusive := guards.exclusive
      rw [content] at exclusive
      exact ⟨owned, (guards.sessions content).mpr
        (exclusive.sessions.holds (List.mem_of_find?_eq_some hit) owned rfl)⟩
    | succ rest =>
      have still : (storage.own tenant.botId).staleSessions = rest + 1 := stale
      rw [still]
      exact ⟨⟨guards.rest, guards.exclusive, guards.fresh⟩, rfl, fun found answered row hit => by
        cases answered; cases hit⟩

theorem getSession (senderId : String) :
    KeepsTo tenant pre (fun found => ∀ session ∈ found, tenant.Owns session)
      (Storage.getSession tenant.botId senderId) := by
  apply KeepsTo.request
  · intro storage memory content
    refine ⟨Nat.le_refl _, fun _ guards _ => ?_⟩
    rw [memory.session?_own]
    refine ⟨guards, rfl, fun found answered session hit => ?_⟩
    cases answered
    refine ⟨Session.owner_of_isOf (List.find?_some hit), ?_⟩
    rw [← guards.rest, content]
    exact List.not_mem_nil
  · intro storage sql content
    apply ConfinedAt.bind (lookUpSession rfl senderId content)
    intro found reached _
    cases found with
    | none => exact .pure fun _ _ session hit => by cases hit
    | some row =>
      refine ConfinedAt.bind (.ofExcept (P := fun session => session.botId = row.botId ∧
        session.id = row.id) fun session read _ => ?_) fun session last _ => .pure fun holds _ => ?_
      · obtain ⟨id, bot, _⟩ := SessionRow.toSession_same read
        exact ⟨bot, id⟩
      · obtain ⟨⟨bot, id⟩, owns, _⟩ := holds
        intro session hit
        cases hit
        obtain ⟨mine, unused⟩ := owns row rfl
        exact ⟨bot.trans mine, id ▸ unused⟩

theorem now : KeepsTo tenant pre (fun _ => True) (Storage.draw Source.now) :=
  KeepsTo.draw Source.now_issues fun _ _ => trivial

theorem saveSession (session : Session) :
    KeepsTo tenant (tenant.Owns session) tenant.Owns (Storage.saveSession session) := by
  apply KeepsTo.assuming (Touches.saveSession session)
  rintro ⟨mine, unused⟩
  apply KeepsTo.request
  · intro storage memory content
    apply ConfinedAt.bind (now storage)
    intro _ drawn run
    have kept := ((Touches.draw Source.now_issues).apply run).store_eq (by decide)
    have saved : Memory.Local tenant.botId (fun memory => (memory.saveSession session).2) memory ∧ _ :=
      Memory.saveSession_own mine
    obtain ⟨written, answer⟩ := saved
    change ConfinedAt tenant _ _ drawn
      (Storage.setMemory (memory.saveSession session).2 >>= fun _ =>
        Pure.pure (memory.saveSession session).1)
      (Storage.setMemory ((memory.own tenant.botId).saveSession session).2 >>= fun _ =>
        Pure.pure ((memory.own tenant.botId).saveSession session).1)
    rw [answer]
    apply ConfinedAt.bind (.setMemory (kept.trans content) fun _ _ => written)
    intro _ reached run
    refine .pure fun _ guards => ⟨mine, ?_⟩
    cases run
    rw [← guards.rest]
    exact List.not_mem_nil
  · intro storage sql content
    apply retrying
    intro storage sql content
    apply ConfinedAt.bind (lookUpSession mine session.senderId content)
    intro found reached run
    have looked := ((Touches.lookUpSession _ _ _).apply run).store_eq (by decide)
    apply ConfinedAt.bind (now reached)
    intro _ drawn run
    have kept := ((Touches.draw Source.now_issues).apply run).store_eq (by decide)
    have content := kept.trans (looked.trans content)
    have free (rows : ∀ row ∈ found, row.botId = tenant.botId ∧
        row.id ∉ tenant.others.sessionIds) :
        (found.map (·.id)).getD session.id ∉ tenant.others.sessionIds := by
      cases found with
      | none => exact unused
      | some row => exact (rows row rfl).2
    refine ConfinedAt.change content (fun holds guards => Sql.saveSession_own mine
      ((guards.sessions content).mp (free holds.2.1))) fun done saved holds _ => ?_
    rw [Sql.saveSession_answer saved]
    exact ⟨mine, free holds.2.1⟩

/-! ### Contacts -/

theorem lookUpContact (senderId : String) (sql : Sql) (storage : Storage) :
    ConfinedAt tenant pre (fun found => ∀ contact ∈ found, contact.botId = tenant.botId) storage
      (Storage.lookUpContact tenant.botId senderId sql)
      (Storage.lookUpContact tenant.botId senderId (sql.own tenant.botId)) := by
  have same : Storage.lookUpContact tenant.botId senderId (sql.own tenant.botId) =
      Storage.lookUpContact tenant.botId senderId sql := by
    simp only [Storage.lookUpContact, sql.contact?_own]
  rw [same]
  refine ⟨?_, fun _ guards _ => ?_⟩
  · rw [Storage.outcome_lookUpContact]
    split <;> exact Nat.le_refl _
  · rw [Storage.outcome_lookUpContact, Storage.outcome_lookUpContact]
    cases stale : storage.staleContacts with
    | zero =>
      have still : (storage.own tenant.botId).staleContacts = 0 := stale
      rw [still]
      refine ⟨guards, rfl, fun found answered contact hit => ?_⟩
      cases answered
      exact Contact.owner_of_isOf (List.find?_some hit)
    | succ rest =>
      have still : (storage.own tenant.botId).staleContacts = rest + 1 := stale
      rw [still]
      exact ⟨⟨guards.rest, guards.exclusive, guards.fresh⟩, rfl, fun found answered contact hit => by
        cases answered; cases hit⟩

theorem getContact (senderId : String) :
    KeepsTo tenant pre (fun _ => True) (Storage.getContact tenant.botId senderId) := by
  apply KeepsTo.request
  · intro storage memory _
    rw [memory.contact?_own]
    exact .pure fun _ _ => trivial
  · intro storage sql _
    exact (lookUpContact senderId sql storage).mono (fun holds => holds) fun _ _ => trivial

theorem newContact (senderId : String) (profile : Storage.Profile) :
    KeepsTo tenant pre (fun contact => contact.botId = tenant.botId)
      (Storage.newContact tenant.botId senderId profile) := by
  intro storage
  apply ConfinedAt.bind (draw (P := fun _ => True) Source.freshId_issues (fun _ _ => trivial) storage)
  intro id reached _
  apply ConfinedAt.bind (now reached)
  intro firstSeenAt reached _
  apply ConfinedAt.bind (now reached)
  intro lastSeenAt reached _
  exact .pure fun _ _ => rfl

theorem visit (profile : Storage.Profile) (contact : Contact) :
    KeepsTo tenant (contact.botId = tenant.botId) (fun contact => contact.botId = tenant.botId)
      (Storage.visit profile contact) := by
  intro storage
  apply ConfinedAt.bind (now storage)
  intro _ reached _
  exact .pure fun holds _ => holds.2

theorem upsertContact (senderId : String) (profile : Storage.Profile) :
    KeepsTo tenant pre (fun _ => True) (Storage.upsertContact tenant.botId senderId profile) := by
  apply KeepsTo.assuming (Touches.upsertContact tenant.botId senderId profile)
  intro _
  apply KeepsTo.request
  · intro storage memory content
    rw [memory.contact?_own]
    have found : ∀ contact ∈ memory.contact? tenant.botId senderId,
        contact.botId = tenant.botId :=
      fun contact hit => Contact.owner_of_isOf (List.find?_some hit)
    have saved (contact : Contact) (reached : Storage) (kept : reached.store = storage.store) :
        ConfinedAt tenant (contact.botId = tenant.botId ∧ True) (fun _ => True) reached
          (Storage.setMemory (memory.saveContact contact) >>= fun _ => Pure.pure contact)
          (Storage.setMemory ((memory.own tenant.botId).saveContact contact) >>= fun _ =>
            Pure.pure contact) := by
      refine ConfinedAt.bind (.setMemory (kept.trans content)
        fun mine _ => Memory.saveContact_own mine.1) fun _ _ _ => .pure fun _ _ => trivial
    cases hit : memory.contact? tenant.botId senderId with
    | none =>
      apply ConfinedAt.bind (newContact senderId profile storage)
      intro contact reached run
      exact saved contact reached
        (((Touches.newContact _ _ _).apply run).store_eq (by decide))
    | some contact =>
      have mine (_ : True) := found contact hit
      apply ConfinedAt.bind ((visit profile contact storage).mono mine fun _ holds => holds)
      intro contact reached run
      exact saved contact reached (((Touches.visit _ _).apply run).store_eq (by decide))
  · intro storage sql content
    apply retrying
    intro storage sql content
    apply ConfinedAt.bind (lookUpContact senderId sql storage)
    intro found reached run
    have content := (((Touches.lookUpContact _ _ _).apply run).store_eq (by decide)).trans content
    cases found with
    | none =>
      apply ConfinedAt.bind (newContact senderId profile reached)
      intro contact drawn run
      have content := (((Touches.newContact _ _ _).apply run).store_eq (by decide)).trans content
      exact .writeThen _ content (fun holds _ => Sql.insertContact_own holds.1) fun _ => trivial
    | some contact =>
      apply ConfinedAt.bind ((visit profile contact reached).mono (fun holds => holds.1 contact rfl)
        fun _ holds => holds)
      intro contact drawn run
      have content := (((Touches.visit _ _).apply run).store_eq (by decide)).trans content
      exact .writeThen (fun sql => .ok (sql.updateContact contact)) content
        (fun holds _ => Sql.updateContact_own holds.1) fun _ => trivial

/-! ### Messages, counters and blocks -/

theorem addEntry (entry : LogEntry) :
    KeepsTo tenant (entry.botId = tenant.botId ∧ entry.id ∉ tenant.others.entryIds)
      (fun _ => True) (Storage.addEntry entry) := by
  apply KeepsTo.request
  · intro storage memory content
    exact .setMemory content fun holds _ => Memory.addEntry_own holds.1
  · intro storage sql content
    exact .write content fun holds guards =>
      Sql.addEntry_own holds.1 ((guards.entries content).mp holds.2)

theorem getCount (day : Day) :
    KeepsTo tenant pre (fun _ => True) (Storage.getCount tenant.botId day) := by
  apply KeepsTo.request
  · intro storage memory _
    rw [memory.count?_own]
    exact .pure fun _ _ => trivial
  · intro storage sql _
    rw [sql.count?_own]
    exact .pure fun _ _ => trivial

theorem bumpCount (day : Day) (direction : Direction) (newUser : Bool) :
    KeepsTo tenant pre (fun _ => True)
      (Storage.bumpCount tenant.botId day direction newUser) := by
  apply KeepsTo.request
  · intro storage memory content
    have counted : Memory.Local tenant.botId
        (fun memory => (memory.bumpCount tenant.botId day direction newUser).2) memory ∧ _ :=
      Memory.bumpCount_own day direction newUser
    obtain ⟨written, answer⟩ := counted
    change ConfinedAt tenant pre _ storage
      (Storage.setMemory (memory.bumpCount tenant.botId day direction newUser).2 >>= fun _ =>
        Pure.pure (some (memory.bumpCount tenant.botId day direction newUser).1))
      (Storage.setMemory ((memory.own tenant.botId).bumpCount tenant.botId day direction newUser).2
        >>= fun _ => Pure.pure
          (some ((memory.own tenant.botId).bumpCount tenant.botId day direction newUser).1))
    rw [answer]
    exact .bind (.setMemory content fun _ _ => written) fun _ _ _ => .pure fun _ _ => trivial
  · intro storage sql content
    refine .bind (retrying (P := fun _ => True) ?_ _ storage) fun _ reached _ =>
      getCount day reached
    intro storage sql content
    have added : Sql.Local tenant.botId (Sql.writes fun sql =>
        .ok (sql.addToCount tenant.botId day direction newUser).2) sql ∧ _ :=
      Sql.addToCount_own day direction newUser
    rw [Storage.bumpCount.attempt, Storage.bumpCount.attempt]
    rcases run : sql.addToCount tenant.botId day direction newUser with ⟨found, written⟩
    rcases alone : (sql.own tenant.botId).addToCount tenant.botId day direction newUser with
      ⟨found', written'⟩
    have same := added.2
    rw [run, alone] at same
    cases same
    cases found with
    | true =>
      have write : ConfinedAt tenant pre (fun _ => True) storage _ _ :=
        .write content fun _ _ => added.1
      rw [run, alone] at write
      exact write
    | false =>
      have kept := Sql.addToCount_absent (congrArg Prod.fst run)
      have kept' := Sql.addToCount_absent (congrArg Prod.fst alone)
      rw [run] at kept
      rw [alone] at kept'
      cases kept
      cases kept'
      apply ConfinedAt.bind
        (draw (P := fun _ => True) Source.freshId_issues (fun _ _ => trivial) storage)
      intro id reached run
      have content := (((Touches.draw Source.freshId_issues).apply run).store_eq
        (by decide)).trans content
      exact .write content fun _ _ => Sql.insertCount_own day direction newUser

theorem saveBlock (block : Block) :
    KeepsTo tenant (block.botId = tenant.botId ∧ block.id ∉ tenant.others.blockIds)
      (fun _ => True) (Storage.saveBlock block) := by
  apply KeepsTo.request
  · intro storage memory content
    exact .setMemory content fun holds guards =>
      Memory.saveBlock_own holds.1 ((guards.memoryBlocks content).mp holds.2)
  · intro storage sql content
    exact .write content fun holds guards =>
      Sql.saveBlock_own holds.1 ((guards.blocks content).mp holds.2)

theorem attempt {action : StoreM α} (keeps : KeepsTo tenant pre P action) :
    KeepsTo tenant pre (fun answer => ∀ value ∈ answer, P value)
      (monadLift (Bookkeeping.attempt action) : StoreM (Option α)) := by
  intro storage
  have run (storage : Storage) :
      outcome (monadLift (Bookkeeping.attempt action) : StoreM (Option α)) storage =
        (.ok (outcome action storage).1.toOption, (outcome action storage).2) := by
    change (fun done : Option α × Storage => ((.ok done.1 : Except Failure (Option α)), done.2))
      ((Bookkeeping.attempt action).run storage) = _
    rw [Bookkeeping.attempt_run]
  refine ⟨?_, fun holds guards bound => ?_⟩
  · rw [run]
    exact (keeps storage).later
  · rw [run] at bound ⊢
    obtain ⟨guards, alone, answer⟩ := (keeps storage).runs holds guards bound
    rw [run, alone]
    refine ⟨guards, rfl, fun found answered value hit => answer value ?_⟩
    cases answered
    cases answer : (outcome action storage).1 with
    | error failure => rw [answer] at hit; cases hit
    | ok value => rw [answer] at hit; cases hit; rfl

end KeepsTo

end Parley
