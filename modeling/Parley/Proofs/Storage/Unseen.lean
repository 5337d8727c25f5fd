import Parley.Proofs.Storage.Footprints

/-!
What a request does not see. Requests give the same answer in storages that differ only in parts
which they do not read, and change both in the same way.
-/

namespace Parley

open Storage (Part SameBut)

/-! ### Storages that are alike -/

namespace Storage.SameBut

variable {parts : List Part} {storage other : Storage}

theorem memory (same : SameBut parts storage other) {content : Memory}
    (holds : storage.store = .memory content) :
    ∃ content', other.store = .memory content' ∧ content.blank parts = content'.blank parts := by
  have stores : storage.store.blank parts = other.store.blank parts := congrArg Storage.store same
  rw [holds] at stores
  cases holds' : other.store with
  | memory content' =>
    rw [holds'] at stores
    exact ⟨content', rfl, Store.memory.inj stores⟩
  | sql content' =>
    rw [holds'] at stores
    cases stores

theorem sql (same : SameBut parts storage other) {content : Sql}
    (holds : storage.store = .sql content) :
    ∃ content', other.store = .sql content' ∧ content.blank parts = content'.blank parts := by
  have stores : storage.store.blank parts = other.store.blank parts := congrArg Storage.store same
  rw [holds] at stores
  cases holds' : other.store with
  | memory content' =>
    rw [holds'] at stores
    cases stores
  | sql content' =>
    rw [holds'] at stores
    exact ⟨content', rfl, Store.sql.inj stores⟩

end Storage.SameBut

/-! ### Requests -/

variable {α : Type} {parts : List Part}

theorem Respects.request {kind : Request} {onMemory : Memory → StoreM α} {onSql : Sql → StoreM α}
    (memory : ∀ content content' storage other, content.blank parts = content'.blank parts →
      storage.store = .memory content → other.store = .memory content' →
      SameBut parts storage other →
      Agree (SameBut parts) (outcome (onMemory content) storage) (outcome (onMemory content') other))
    (sql : ∀ content content' storage other, content.blank parts = content'.blank parts →
      storage.store = .sql content → other.store = .sql content' → SameBut parts storage other →
      Agree (SameBut parts) (outcome (onSql content) storage) (outcome (onSql content') other)) :
    Respects (SameBut parts) (Storage.request kind onMemory onSql) := by
  intro storage other same
  rw [Storage.outcome_request, Storage.outcome_request, same.broken, same.down]
  by_cases out : kind ∈ storage.broken
  · rw [if_pos out, if_pos out]
    exact ⟨rfl, same⟩
  · rw [if_neg out, if_neg out]
    cases holds : storage.store with
    | memory content =>
      obtain ⟨content', holds', blank⟩ := same.memory holds
      rw [holds']
      exact memory content content' storage other blank holds holds' same
    | sql content =>
      obtain ⟨content', holds', blank⟩ := same.sql holds
      rw [holds']
      dsimp only
      split
      · exact ⟨rfl, same⟩
      · exact sql content content' storage other blank holds holds' same

theorem Respects.retrying {attempt : Sql → StoreM α}
    (each : ∀ sql sql' storage other, sql.blank parts = sql'.blank parts →
      SameBut parts storage other →
      Agree (SameBut parts) (outcome (attempt sql) storage) (outcome (attempt sql') other))
    (attempts : Nat) : Respects (SameBut parts) (Storage.retrying attempt attempts) := by
  induction attempts with
  | zero =>
    intro storage other same
    cases holds : storage.store with
    | memory content =>
      obtain ⟨content', holds', _⟩ := same.memory holds
      rw [Storage.outcome_retrying_memory _ _ holds, Storage.outcome_retrying_memory _ _ holds']
      exact ⟨rfl, same⟩
    | sql sql =>
      obtain ⟨sql', holds', blank⟩ := same.sql holds
      rw [Storage.outcome_retrying _ _ holds, Storage.outcome_retrying _ _ holds']
      exact each sql sql' storage other blank same
  | succ attempts ih =>
    intro storage other same
    cases holds : storage.store with
    | memory content =>
      obtain ⟨content', holds', _⟩ := same.memory holds
      rw [Storage.outcome_retrying_memory _ _ holds, Storage.outcome_retrying_memory _ _ holds']
      exact ⟨rfl, same⟩
    | sql sql =>
      obtain ⟨sql', holds', blank⟩ := same.sql holds
      have first := each sql sql' storage other blank same
      rw [Storage.outcome_retrying _ _ holds, Storage.outcome_retrying _ _ holds']
      rcases run : outcome (attempt sql) storage with ⟨answer, reached⟩
      rcases run' : outcome (attempt sql') other with ⟨answer', reached'⟩
      rw [run, run'] at first
      obtain ⟨answers, alike⟩ := first
      cases answers
      cases answer with
      | ok value => exact ⟨rfl, alike⟩
      | error failure =>
        cases failure with
        | keyTaken => exact ih reached reached' alike
        | _ => exact ⟨rfl, alike⟩

theorem Storage.SameBut.setStore {storage other : Storage} (same : SameBut parts storage other)
    {store store' : Store} (stores : store.blank parts = store'.blank parts) :
    SameBut parts { storage with store } { other with store := store' } := by
  simp only [SameBut, Storage.blank, Storage.mk.injEq] at same ⊢
  exact ⟨stores, same.2⟩

theorem Agree.draw {β : Type} {action : Draw α} {next next' : StoreM β} {storage other : Storage}
    (unseen : .source ∈ parts) (same : SameBut parts storage other)
    (rest : ∀ reached reached', SameBut parts reached reached' →
      Agree (SameBut parts) (outcome next reached) (outcome next' reached')) :
    Agree (SameBut parts) (outcome (Storage.draw action >>= fun _ => next) storage)
      (outcome (Storage.draw action >>= fun _ => next') other) := by
  rw [outcome_bind_of_ok (Storage.outcome_draw _ _), outcome_bind_of_ok (Storage.outcome_draw _ _)]
  apply rest
  simp only [SameBut, Storage.blank, Storage.mk.injEq, unseen, if_true] at same ⊢
  exact same

/-! ### Saving a session -/

theorem Memory.saveSession_blank (seen : .sessions ∉ parts) (session : Session) (memory : Memory) :
    (memory.blank parts).saveSession session =
      ((memory.saveSession session).1, (memory.saveSession session).2.blank parts) := by
  simp [Memory.saveSession, Memory.session?, Memory.blank, seen]

theorem Sql.saveSession_blank (seen : .sessions ∉ parts) (found : Option SessionRow)
    (session : Session) (sql : Sql) :
    (sql.blank parts).saveSession found session =
      (sql.saveSession found session).map fun saved => (saved.1, saved.2.blank parts) := by
  have rows : (sql.blank parts).sessions = sql.sessions := by simp [Sql.blank, seen]
  unfold Sql.saveSession
  rw [rows]
  split
  · rfl
  · cases found with
    | some row => simp [Sql.blank, seen, Except.map]
    | none =>
      dsimp only
      split
      · rfl
      · simp [Sql.blank, seen, Except.map]

theorem Agree.lookUpSession {sql sql' : Sql} {storage other : Storage} (seen : .sessions ∉ parts)
    (looked : .sessionLookups ∉ parts) (blank : sql.blank parts = sql'.blank parts)
    (same : SameBut parts storage other) (botId senderId : String) :
    Agree (SameBut parts) (outcome (Storage.lookUpSession botId senderId sql) storage)
      (outcome (Storage.lookUpSession botId senderId sql') other) := by
  have rows : sql.sessions = sql'.sessions := by
    simpa [Sql.blank, seen] using congrArg Sql.sessions blank
  have stale : storage.staleSessions = other.staleSessions := by
    simpa [Storage.blank, looked] using congrArg Storage.staleSessions same
  rw [Storage.outcome_lookUpSession, Storage.outcome_lookUpSession, ← stale]
  cases storage.staleSessions with
  | zero =>
    refine ⟨?_, same⟩
    simp only [Sql.sessionRow?, rows]
  | succ rest =>
    refine ⟨rfl, ?_⟩
    simp only [SameBut, Storage.blank, Storage.mk.injEq] at same ⊢
    simp only [same, and_self]

theorem Agree.saveSession {session : Session} {sql sql' : Sql} {storage other : Storage}
    (seen : .sessions ∉ parts) (looked : .sessionLookups ∉ parts) (unseen : .source ∈ parts)
    (blank : sql.blank parts = sql'.blank parts) (same : SameBut parts storage other) :
    Agree (SameBut parts) (outcome (Storage.saveSession.attempt session sql) storage)
      (outcome (Storage.saveSession.attempt session sql') other) := by
  apply Agree.bind (Agree.lookUpSession seen looked blank same _ _)
  intro found reached reached' same
  apply Agree.draw unseen same
  intro reached reached' same
  have answers := congrArg (Sql.saveSession found session) blank
  rw [Sql.saveSession_blank seen, Sql.saveSession_blank seen] at answers
  rw [outcome_bind, outcome_bind, Storage.outcome_ofExcept, Storage.outcome_ofExcept]
  cases done : sql.saveSession found session <;> cases done' : sql'.saveSession found session <;>
    rw [done, done'] at answers <;>
    simp only [Except.map, Except.ok.injEq, Except.error.injEq, Prod.mk.injEq, reduceCtorEq] at answers
  · exact ⟨congrArg Except.error answers, same⟩
  · exact ⟨congrArg Except.ok answers.1, same.setStore (congrArg Store.sql answers.2)⟩

theorem Respects.saveSession (session : Session) (seen : .sessions ∉ parts)
    (looked : .sessionLookups ∉ parts) (unseen : .source ∈ parts) :
    Respects (SameBut parts) (Storage.saveSession session) := by
  apply Respects.request
  · intro content content' storage other blank holds holds' same
    apply Agree.draw unseen same
    intro reached reached' same
    have answers := congrArg (Memory.saveSession session) blank
    rw [Memory.saveSession_blank seen, Memory.saveSession_blank seen] at answers
    obtain ⟨saved, memories⟩ := Prod.mk.inj answers
    exact ⟨congrArg Except.ok saved, same.setStore (congrArg Store.memory memories)⟩
  · intro content content' storage other blank holds holds' same
    exact Respects.retrying (fun _ _ _ _ => Agree.saveSession seen looked unseen) _ _ _ same

/-! ### Reading content -/

theorem Respects.reading {kind : Request} {onMemory : Memory → α} {onSql : Sql → Except Failure α}
    (memory : ∀ content content', content.blank parts = content'.blank parts →
      onMemory content = onMemory content')
    (sql : ∀ content content', content.blank parts = content'.blank parts →
      onSql content = onSql content') :
    Respects (SameBut parts) (Storage.request kind (fun content => return onMemory content)
      (fun content => Storage.ofExcept (onSql content))) := by
  apply Respects.request
  · intro content content' storage other blank _ _ same
    exact ⟨congrArg Except.ok (memory content content' blank), same⟩
  · intro content content' storage other blank _ _ same
    rw [Storage.outcome_ofExcept, Storage.outcome_ofExcept]
    exact ⟨sql content content' blank, same⟩

section

variable {memory memory' : Memory} {sql sql' : Sql}

theorem Memory.blocks_eq (seen : .blocks ∉ parts) (blank : memory.blank parts = memory'.blank parts) :
    memory.blocks = memory'.blocks := by
  simpa [Memory.blank, seen] using congrArg Memory.blocks blank

theorem Sql.blocks_eq (seen : .blocks ∉ parts) (blank : sql.blank parts = sql'.blank parts) :
    sql.blocks = sql'.blocks := by
  simpa [Sql.blank, seen] using congrArg Sql.blocks blank

theorem Memory.flows_eq (seen : .flows ∉ parts) (blank : memory.blank parts = memory'.blank parts) :
    memory.flows = memory'.flows := by
  simpa [Memory.blank, seen] using congrArg Memory.flows blank

theorem Sql.flows_eq (seen : .flows ∉ parts) (blank : sql.blank parts = sql'.blank parts) :
    sql.flows = sql'.flows := by
  simpa [Sql.blank, seen] using congrArg Sql.flows blank

end

namespace Respects

theorem getBlock (seen : .blocks ∉ parts) (botId blockId : String) :
    Respects (SameBut parts) (Storage.getBlock botId blockId) := by
  apply Respects.reading
  · intro content content' blank
    simp only [Memory.block?, Memory.blocks_eq seen blank]
  · intro content content' blank
    simp only [Sql.block?, Sql.blockRow?, Sql.blocks_eq seen blank]

theorem listBlocks (seen : .blocks ∉ parts) (botId : String) (enabledOnly : Bool) :
    Respects (SameBut parts) (Storage.listBlocks botId enabledOnly) := by
  change Respects (SameBut parts) (Storage.request _ _ fun content =>
    Storage.ofExcept (.ok (content.listBlocks botId enabledOnly)))
  apply Respects.reading
  · intro content content' blank
    simp only [Memory.listBlocks, Memory.blocks_eq seen blank]
  · intro content content' blank
    simp only [Sql.listBlocks, Sql.blockRows, Sql.blocks_eq seen blank]

theorem getFlow (seen : .flows ∉ parts) (botId flowId : String) :
    Respects (SameBut parts) (Storage.getFlow botId flowId) := by
  apply Respects.reading
  · intro content content' blank
    simp only [Memory.flow?, Memory.flows_eq seen blank]
  · intro content content' blank
    simp only [Sql.flow?, Sql.flowRow?, Sql.flows_eq seen blank]

theorem listFlows (seen : .flows ∉ parts) (botId : String) (activeOnly : Bool) :
    Respects (SameBut parts) (Storage.listFlows botId activeOnly) := by
  change Respects (SameBut parts) (Storage.request _ _ fun content =>
    Storage.ofExcept (.ok (content.listFlows botId activeOnly)))
  apply Respects.reading
  · intro content content' blank
    simp only [Memory.listFlows, Memory.flows_eq seen blank]
  · intro content content' blank
    simp only [Sql.listFlows, Sql.flowRows, Sql.flows_eq seen blank]

end Respects

theorem Storage.SameBut.findBlock {storage other : Storage} (same : SameBut parts storage other)
    (seen : .blocks ∉ parts) : other.findBlock = storage.findBlock := by
  funext botId blockId
  exact (Respects.getBlock seen botId blockId storage other same).1.symm

end Parley
