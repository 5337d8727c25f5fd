import Parley.Proofs.Storage.Footprints
import Parley.Proofs.Storage.Tenants

/-!
Actions that keep to the records of one bot. On a store that several bots share they run as they do on
the records of that bot alone, and leave the records of all others as they are, as long as no id that is
issued meanwhile is in use by another bot.
-/

namespace Parley

/-! ### A bot in a store that it shares -/

def Store.Exclusive : Store → Prop
  | .memory content => content.Exclusive
  | .sql content => content.Exclusive

/-- The ids under which a store finds sessions. In memory they are found by their sender. -/
def Store.sessionIds : Store → List String
  | .memory _ => []
  | .sql content => content.sessions.map (·.id)

def Store.blockIds : Store → List String
  | .memory content => content.blocks.map (·.id)
  | .sql content => content.blocks.map (·.id)

/-- The ids that the log of a store takes once. A log in memory takes every entry. -/
def Store.entryIds : Store → List String
  | .memory _ => []
  | .sql content => content.entries.map (·.id)

/-- An id that a store can give to something new. -/
structure Store.Free (store : Store) (id : String) : Prop where
  session : id ∉ store.sessionIds
  block : id ∉ store.blockIds
  entry : id ∉ store.entryIds

def Storage.own (botId : String) (storage : Storage) : Storage :=
  { storage with store := storage.store.own botId }

/-- A bot, the records of all others, and the number up to which ids are issued. -/
structure Tenant where
  botId : String
  others : Store
  limit : Nat

/-- A storage in which a bot and the others are kept apart. -/
structure Tenant.Guards (tenant : Tenant) (storage : Storage) : Prop where
  rest : storage.store.rest tenant.botId = tenant.others
  exclusive : storage.store.Exclusive
  fresh : ∀ number, storage.source.issued ≤ number → number < tenant.limit →
    tenant.others.Free (Source.idOf number)

/-- What a request of a bot does is what it does to the records of the bot alone. -/
structure Confined {α : Type} (tenant : Tenant) (P : α → Prop)
    (result alone : Except Failure α × Storage) : Prop where
  guards : tenant.Guards result.2
  alone : alone = (result.1, result.2.own tenant.botId)
  answer : ∀ value, result.1 = .ok value → P value

structure ConfinedAt {α : Type} (tenant : Tenant) (pre : Prop) (P : α → Prop) (storage : Storage)
    (action alone : StoreM α) : Prop where
  later : storage.source.issued ≤ (outcome action storage).2.source.issued
  runs : pre → tenant.Guards storage → (outcome action storage).2.source.issued ≤ tenant.limit →
    Confined tenant P (outcome action storage) (outcome alone (storage.own tenant.botId))

/-- A request keeps to the records of a bot, under a condition, and its answers have a property. -/
def KeepsTo {α : Type} (tenant : Tenant) (pre : Prop) (P : α → Prop) (action : StoreM α) : Prop :=
  ∀ storage, ConfinedAt tenant pre P storage action action

variable {α β : Type} {tenant : Tenant} {pre : Prop} {P : α → Prop} {Q : β → Prop}
  {storage : Storage}

theorem Tenant.Guards.draw (guards : tenant.Guards storage) {source : Source}
    (issued : storage.source.issued ≤ source.issued) : tenant.Guards { storage with source } where
  rest := guards.rest
  exclusive := guards.exclusive
  fresh number later := guards.fresh number (Nat.le_trans issued later)

/-- A session of a bot, under an id that no other bot uses. -/
def Tenant.Owns (tenant : Tenant) (session : Session) : Prop :=
  session.botId = tenant.botId ∧ session.id ∉ tenant.others.sessionIds

section

variable {id : String}

theorem Tenant.Guards.sessions (guards : tenant.Guards storage) {sql : Sql}
    (content : storage.store = .sql sql) : id ∉ tenant.others.sessionIds ↔
      Table.Holds SessionRow.id SessionRow.botId tenant.botId id sql.sessions := by
  rw [← guards.rest, content, Table.holds_iff]
  rfl

theorem Tenant.Guards.memoryBlocks (guards : tenant.Guards storage) {memory : Memory}
    (content : storage.store = .memory memory) : id ∉ tenant.others.blockIds ↔
      Table.Holds Block.id Block.botId tenant.botId id memory.blocks := by
  rw [← guards.rest, content, Table.holds_iff]
  rfl

theorem Tenant.Guards.blocks (guards : tenant.Guards storage) {sql : Sql}
    (content : storage.store = .sql sql) : id ∉ tenant.others.blockIds ↔
      Table.Holds BlockRow.id BlockRow.botId tenant.botId id sql.blocks := by
  rw [← guards.rest, content, Table.holds_iff]
  rfl

theorem Tenant.Guards.entries (guards : tenant.Guards storage) {sql : Sql}
    (content : storage.store = .sql sql) : id ∉ tenant.others.entryIds ↔
      Table.Holds LogEntry.id LogEntry.botId tenant.botId id sql.entries := by
  rw [← guards.rest, content, Table.holds_iff]
  rfl

end

namespace ConfinedAt

theorem pure {value : α} (answer : pre → tenant.Guards storage → P value) :
    ConfinedAt tenant pre P storage (Pure.pure value) (Pure.pure value) where
  later := Nat.le_refl _
  runs holds guards _ := ⟨guards, rfl, fun _ same => by cases same; exact answer holds guards⟩

theorem throw (failure : Failure) :
    ConfinedAt tenant pre P storage (MonadExcept.throw failure) (MonadExcept.throw failure) where
  later := Nat.le_refl _
  runs _ guards _ := ⟨guards, rfl, fun _ same => by cases same⟩

theorem ofExcept {answer : Except Failure α} (holds : ∀ value, answer = .ok value → pre → P value) :
    ConfinedAt tenant pre P storage (Storage.ofExcept answer) (Storage.ofExcept answer) := by
  cases answer with
  | ok value => exact .pure fun before _ => holds value rfl before
  | error failure => exact .throw failure

theorem mono {P' : α → Prop} {pre' : Prop} {action alone : StoreM α}
    (confined : ConfinedAt tenant pre P storage action alone) (before : pre' → pre)
    (after : ∀ value, P value → P' value) : ConfinedAt tenant pre' P' storage action alone where
  later := confined.later
  runs holds guards bound := by
    obtain ⟨guards, alone, answer⟩ := confined.runs (before holds) guards bound
    exact ⟨guards, alone, fun value same => after value (answer value same)⟩

theorem bind {action alone : StoreM α} {next next' : α → StoreM β}
    (first : ConfinedAt tenant pre P storage action alone)
    (rest : ∀ value reached, outcome action storage = (.ok value, reached) →
      ConfinedAt tenant (P value ∧ pre) Q reached (next value) (next' value)) :
    ConfinedAt tenant pre Q storage (action >>= next) (alone >>= next') := by
  have later := first.later
  have runs := first.runs
  rcases run : outcome action storage with ⟨answer, reached⟩
  rw [run] at later runs
  cases answer with
  | error failure =>
    refine ⟨?_, fun holds guards bound => ?_⟩ <;> rw [outcome_bind_of_error run]
    · exact later
    · rw [outcome_bind_of_error run] at bound
      obtain ⟨guards, alone, _⟩ := runs holds guards bound
      rw [outcome_bind_of_error alone]
      exact ⟨guards, rfl, fun _ same => by cases same⟩
  | ok value =>
    have next := rest value reached run
    refine ⟨?_, fun holds guards bound => ?_⟩ <;> rw [outcome_bind_of_ok run]
    · exact Nat.le_trans later next.later
    · rw [outcome_bind_of_ok run] at bound
      -- the first part issues no more ids than the whole
      obtain ⟨guards, alone, answer⟩ := runs holds guards (Nat.le_trans next.later bound)
      rw [outcome_bind_of_ok alone]
      exact next.runs ⟨answer value rfl, holds⟩ guards bound

theorem setMemory {memory : Memory} {change : Memory → Memory}
    (content : storage.store = .memory memory)
    (changes : pre → tenant.Guards storage → Memory.Local tenant.botId change memory) :
    ConfinedAt tenant pre (fun _ => True) storage (Storage.setMemory (change memory))
      (Storage.setMemory (change (memory.own tenant.botId))) where
  later := Nat.le_refl _
  runs holds guards _ := by
    obtain ⟨own, rest, exclusive⟩ := changes holds guards
    have guarded := guards.rest
    have kept := guards.exclusive
    rw [content] at guarded kept
    refine ⟨⟨?_, exclusive kept, guards.fresh⟩, ?_, fun _ _ => trivial⟩
    · exact (congrArg Store.memory rest).trans guarded
    · have same : (Except.ok (), { storage.own tenant.botId with
          store := .memory (change (memory.own tenant.botId)) }) =
          ((Except.ok () : Except Failure Unit), { storage with
            store := .memory ((change memory).own tenant.botId) }) := by
        rw [own]
        rfl
      exact same

theorem change {sql : Sql} {change : Sql → Except Failure (α × Sql)}
    (content : storage.store = .sql sql)
    (changes : pre → tenant.Guards storage → Sql.Local tenant.botId change sql)
    (answers : ∀ done, change sql = .ok done → pre → tenant.Guards storage → P done.1) :
    ConfinedAt tenant pre P storage
      (Storage.ofExcept (change sql) >>= fun done => do Storage.setSql done.2; return done.1)
      (Storage.ofExcept (change (sql.own tenant.botId)) >>= fun done => do
        Storage.setSql done.2; return done.1) := by
  rcases run : change sql with failure | done
  · refine ⟨Nat.le_refl _, fun holds guards _ => ?_⟩
    have own := (changes holds guards).own
    rw [run] at own
    rw [own]
    exact ⟨guards, rfl, fun _ same => by cases same⟩
  · refine ⟨Nat.le_refl _, fun holds guards _ => ?_⟩
    obtain ⟨own, rest, exclusive⟩ := changes holds guards
    have guarded := guards.rest
    have kept := guards.exclusive
    rw [content] at guarded kept
    rw [run] at own
    rw [own]
    refine ⟨⟨?_, exclusive done run kept, guards.fresh⟩, rfl, ?_⟩
    · exact (congrArg Store.sql (rest done run)).trans guarded
    · intro value same
      cases same
      exact answers done run holds guards

theorem write {sql : Sql} {change : Sql → Except Failure Sql} (content : storage.store = .sql sql)
    (changes : pre → tenant.Guards storage → Sql.Local tenant.botId (Sql.writes change) sql) :
    ConfinedAt tenant pre (fun _ => True) storage
      (Storage.ofExcept (change sql) >>= Storage.setSql)
      (Storage.ofExcept (change (sql.own tenant.botId)) >>= Storage.setSql) := by
  have writes (sql : Sql) : (Storage.ofExcept (change sql) >>= Storage.setSql) =
      (Storage.ofExcept (Sql.writes change sql) >>= fun done => do
        Storage.setSql done.2
        return done.1) := by
    unfold Sql.writes
    cases change sql <;> rfl
  rw [writes, writes]
  exact ConfinedAt.change content changes fun _ _ _ _ => trivial

theorem writeThen {sql : Sql} {value : α} (change : Sql → Except Failure Sql)
    (content : storage.store = .sql sql)
    (changes : pre → tenant.Guards storage → Sql.Local tenant.botId (Sql.writes change) sql)
    (answer : pre → P value) :
    ConfinedAt tenant pre P storage
      (Storage.ofExcept (change sql) >>= fun written => do Storage.setSql written; return value)
      (Storage.ofExcept (change (sql.own tenant.botId)) >>= fun written => do
        Storage.setSql written; return value) := by
  rw [← bind_assoc, ← bind_assoc]
  exact (write content changes).bind fun _ _ _ => .pure fun holds _ => answer holds.2

theorem get {next next' : Storage → StoreM α}
    (rest : ConfinedAt tenant pre P storage (next storage) (next' (storage.own tenant.botId))) :
    ConfinedAt tenant pre P storage (MonadState.get >>= next) (MonadState.get >>= next') :=
  ⟨rest.later, rest.runs⟩

theorem tryCatch {action alone : StoreM α} {rescue rescue' : Failure → StoreM α}
    (first : ConfinedAt tenant pre P storage action alone)
    (rest : ∀ failure reached, outcome action storage = (.error failure, reached) →
      ConfinedAt tenant pre P reached (rescue failure) (rescue' failure)) :
    ConfinedAt tenant pre P storage (MonadExcept.tryCatch action rescue)
      (MonadExcept.tryCatch alone rescue') := by
  have later := first.later
  have runs := first.runs
  rcases run : outcome action storage with ⟨answer, reached⟩
  rw [run] at later runs
  cases answer with
  | ok value =>
    refine ⟨?_, fun holds guards bound => ?_⟩
    · rw [outcome_tryCatch, run]
      exact later
    · rw [outcome_tryCatch, run] at bound
      obtain ⟨guards, alone, answer⟩ := runs holds guards bound
      rw [outcome_tryCatch, outcome_tryCatch, run, alone]
      exact ⟨guards, rfl, answer⟩
  | error failure =>
    have next := rest failure reached run
    refine ⟨?_, fun holds guards bound => ?_⟩
    · rw [outcome_tryCatch, run]
      exact Nat.le_trans later next.later
    · rw [outcome_tryCatch, run] at bound
      obtain ⟨guards, alone, _⟩ := runs holds guards (Nat.le_trans next.later bound)
      rw [outcome_tryCatch, outcome_tryCatch, run, alone]
      exact next.runs holds guards bound

end ConfinedAt

@[simp] theorem Store.own_memory (botId : String) (memory : Memory) :
    (Store.memory memory).own botId = .memory (memory.own botId) := rfl

@[simp] theorem Store.own_sql (botId : String) (sql : Sql) :
    (Store.sql sql).own botId = .sql (sql.own botId) := rfl

theorem Storage.own_store (botId : String) (storage : Storage) :
    (storage.own botId).store = storage.store.own botId := rfl

namespace KeepsTo

theorem retrying {attempt : Sql → StoreM α}
    (each : ∀ storage sql, storage.store = .sql sql →
      ConfinedAt tenant pre P storage (attempt sql) (attempt (sql.own tenant.botId)))
    (attempts : Nat) : KeepsTo tenant pre P (Storage.retrying attempt attempts) := by
  induction attempts with
  | zero =>
    intro storage
    apply ConfinedAt.get
    rw [Storage.own_store]
    cases content : storage.store with
    | memory memory => exact .throw _
    | sql sql => exact each storage sql content
  | succ attempts ih =>
    intro storage
    apply ConfinedAt.get
    rw [Storage.own_store]
    cases content : storage.store with
    | memory memory => exact .throw _
    | sql sql =>
      apply ConfinedAt.tryCatch (each storage sql content)
      intro failure reached _
      split
      · exact ih reached
      · exact .throw failure

theorem check (kind : Request) : KeepsTo tenant pre (fun _ => True) (Storage.check kind) := by
  intro storage
  apply ConfinedAt.get
  change ConfinedAt tenant pre _ storage (if kind ∈ storage.broken then throw .storeDown else _)
    (if kind ∈ storage.broken then throw .storeDown else _)
  split
  · exact .throw _
  · exact .pure fun _ _ => trivial

theorem begin : KeepsTo tenant pre (fun _ => True) Storage.begin := by
  intro storage
  apply ConfinedAt.get
  change ConfinedAt tenant pre _ storage (if storage.down then throw .storeDown else _)
    (if storage.down then throw .storeDown else _)
  split
  · exact .throw _
  · exact .pure fun _ _ => trivial

theorem request {kind : Request} {onMemory : Memory → StoreM α} {onSql : Sql → StoreM α}
    (memory : ∀ storage memory, storage.store = .memory memory →
      ConfinedAt tenant pre P storage (onMemory memory) (onMemory (memory.own tenant.botId)))
    (sql : ∀ storage sql, storage.store = .sql sql →
      ConfinedAt tenant pre P storage (onSql sql) (onSql (sql.own tenant.botId))) :
    KeepsTo tenant pre P (Storage.request kind onMemory onSql) := by
  intro storage
  apply ConfinedAt.bind (check kind storage)
  intro _ checked _
  apply ConfinedAt.get
  rw [Storage.own_store]
  cases content : checked.store with
  | memory content' => exact (memory checked content' content).mono And.right fun _ holds => holds
  | sql content' =>
    apply ConfinedAt.bind (begin checked)
    intro _ begun run
    have same : begun = checked := by
      rw [Storage.outcome_begin] at run
      exact (congrArg Prod.snd run).symm
    rw [same]
    exact (sql checked content' content).mono (fun holds => holds.2.2) fun _ holds => holds

theorem reading {kind : Request} {onMemory : Memory → α} {onSql : Sql → Except Failure α}
    (memory : ∀ memory, memory.Exclusive → onMemory (memory.own tenant.botId) = onMemory memory ∧
      P (onMemory memory))
    (sql : ∀ sql, sql.Exclusive → onSql (sql.own tenant.botId) = onSql sql ∧
      ∀ value, onSql sql = .ok value → P value) :
    KeepsTo tenant pre P (Storage.request kind (fun content => return onMemory content)
      (fun content => Storage.ofExcept (onSql content))) := by
  apply KeepsTo.request
  · intro storage content holds
    refine ⟨Nat.le_refl _, fun _ guards _ => ?_⟩
    have exclusive := guards.exclusive
    rw [holds] at exclusive
    obtain ⟨same, answer⟩ := memory content exclusive
    rw [same]
    exact ⟨guards, rfl, fun _ answered => by cases answered; exact answer⟩
  · intro storage content holds
    refine ⟨Nat.le_of_eq (by rw [Storage.outcome_ofExcept]), fun _ guards _ => ?_⟩
    have exclusive := guards.exclusive
    rw [holds] at exclusive
    obtain ⟨same, answer⟩ := sql content exclusive
    rw [same, Storage.outcome_ofExcept, Storage.outcome_ofExcept]
    exact ⟨guards, rfl, answer⟩

theorem draw {action : Draw α} (issues : Source.Issues action)
    (answers : ∀ source, (∀ number, source.issued ≤ number →
      number < (action.run source).2.issued → tenant.others.Free (Source.idOf number)) →
      P (action.run source).1) : KeepsTo tenant pre P (Storage.draw action) := by
  intro storage
  refine ⟨(issues _).issued, fun _ guards bound => ?_⟩
  refine ⟨guards.draw (issues _).issued, rfl, fun value same => ?_⟩
  rw [Storage.outcome_draw] at same bound
  cases same
  exact answers storage.source fun number later before =>
    guards.fresh number later (Nat.lt_of_lt_of_le before bound)

theorem assuming {parts : List Storage.Part} {action : StoreM α} (touches : Touches parts action)
    (keeps : pre → KeepsTo tenant True P action) : KeepsTo tenant pre P action := fun storage =>
  ⟨(touches storage).issued, fun holds => (keeps holds storage).runs trivial⟩

end KeepsTo

end Parley
