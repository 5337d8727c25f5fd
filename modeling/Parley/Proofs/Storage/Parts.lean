import Parley.Proofs.Outcome

/-!
The parts of a storage, and which of them a request touches. What a request does not touch is the
same afterwards, in memory and in a database, whether or not the request fails.
-/

namespace Parley

namespace Storage

inductive Part where
  | bots
  | sessions
  | blocks
  | flows
  | contacts
  | entries
  | counts
  | source
  | sessionLookups
  | contactLookups
  deriving DecidableEq

end Storage

open Storage (Part)

def Memory.blank (parts : List Part) (memory : Memory) : Memory where
  bots := if .bots ∈ parts then [] else memory.bots
  sessions := if .sessions ∈ parts then [] else memory.sessions
  blocks := if .blocks ∈ parts then [] else memory.blocks
  flows := if .flows ∈ parts then [] else memory.flows
  contacts := if .contacts ∈ parts then [] else memory.contacts
  entries := if .entries ∈ parts then [] else memory.entries
  counts := if .counts ∈ parts then [] else memory.counts

def Sql.blank (parts : List Part) (sql : Sql) : Sql where
  bots := if .bots ∈ parts then [] else sql.bots
  sessions := if .sessions ∈ parts then [] else sql.sessions
  blocks := if .blocks ∈ parts then [] else sql.blocks
  flows := if .flows ∈ parts then [] else sql.flows
  contacts := if .contacts ∈ parts then [] else sql.contacts
  entries := if .entries ∈ parts then [] else sql.entries
  counts := if .counts ∈ parts then [] else sql.counts

def Store.blank (parts : List Part) : Store → Store
  | .memory content => .memory (content.blank parts)
  | .sql content => .sql (content.blank parts)

namespace Storage

/-- A storage of which some parts are blank. -/
def blank (parts : List Part) (storage : Storage) : Storage where
  store := storage.store.blank parts
  source := if .source ∈ parts then { micros := 0 } else storage.source
  broken := storage.broken
  down := storage.down
  staleSessions := if .sessionLookups ∈ parts then 0 else storage.staleSessions
  staleContacts := if .contactLookups ∈ parts then 0 else storage.staleContacts

/-- Two storages that differ at most in some parts. -/
def SameBut (parts : List Part) (storage other : Storage) : Prop :=
  storage.blank parts = other.blank parts

end Storage

theorem Memory.blank_blank {parts more : List Part} (sub : parts ⊆ more) (memory : Memory) :
    (memory.blank parts).blank more = memory.blank more := by
  have keep (part : Part) {α : Type} (content : List α) :
      (if part ∈ more then [] else if part ∈ parts then [] else content) =
        if part ∈ more then [] else content := by
    by_cases h : part ∈ parts
    · simp [sub h]
    · simp [h]
  simp only [Memory.blank, keep]

theorem Sql.blank_blank {parts more : List Part} (sub : parts ⊆ more) (sql : Sql) :
    (sql.blank parts).blank more = sql.blank more := by
  have keep (part : Part) {α : Type} (content : List α) :
      (if part ∈ more then [] else if part ∈ parts then [] else content) =
        if part ∈ more then [] else content := by
    by_cases h : part ∈ parts
    · simp [sub h]
    · simp [h]
  simp only [Sql.blank, keep]

namespace Storage

theorem blank_blank {parts more : List Part} (sub : parts ⊆ more) (storage : Storage) :
    (storage.blank parts).blank more = storage.blank more := by
  have keep (part : Part) {α : Type} (gone content : α) :
      (if part ∈ more then gone else if part ∈ parts then gone else content) =
        if part ∈ more then gone else content := by
    by_cases h : part ∈ parts
    · simp [sub h]
    · simp [h]
  have stores : (storage.store.blank parts).blank more = storage.store.blank more := by
    cases storage.store with
    | memory memory => exact congrArg Store.memory (memory.blank_blank sub)
    | sql sql => exact congrArg Store.sql (sql.blank_blank sub)
  simp only [blank, keep, stores]

theorem SameBut.mono {parts more : List Part} {storage other : Storage}
    (same : SameBut parts storage other) (sub : parts ⊆ more) : SameBut more storage other := by
  have blanked := congrArg (blank more) same
  rwa [blank_blank sub, blank_blank sub] at blanked

theorem SameBut.symm {parts : List Part} {storage other : Storage}
    (same : SameBut parts storage other) : SameBut parts other storage := Eq.symm same

theorem SameBut.trans {parts : List Part} {storage middle other : Storage}
    (first : SameBut parts storage middle) (second : SameBut parts middle other) :
    SameBut parts storage other := Eq.trans first second

theorem SameBut.broken {parts : List Part} {storage other : Storage}
    (same : SameBut parts storage other) : other.broken = storage.broken :=
  (congrArg Storage.broken same).symm

theorem SameBut.down {parts : List Part} {storage other : Storage}
    (same : SameBut parts storage other) : other.down = storage.down :=
  (congrArg Storage.down same).symm

theorem SameBut.source {parts : List Part} {storage other : Storage}
    (same : SameBut parts storage other) (out : .source ∉ parts) : other.source = storage.source := by
  have kept := congrArg Storage.source same
  simpa only [blank, out, if_false] using kept.symm

theorem SameBut.eq {storage other : Storage} (same : SameBut [] storage other) : other = storage := by
  have whole (storage : Storage) : storage.blank [] = storage := by
    cases storage with
    | mk store => cases store <;> rfl
  rw [← whole storage, ← whole other]
  exact Eq.symm same

/-- The parts that are no records. -/
def volatile : List Part := [.source, .sessionLookups, .contactLookups]

def logParts : List Part := [.entries, .counts, .source]

theorem store_blank_volatile (store : Store) : store.blank volatile = store := by
  cases store <;> simp [Store.blank, Memory.blank, Sql.blank, volatile]

theorem SameBut.store_eq {parts : List Part} {storage other : Storage}
    (same : SameBut parts storage other) (sub : parts ⊆ volatile) : other.store = storage.store := by
  have stores : storage.store.blank volatile = other.store.blank volatile :=
    congrArg Storage.store (same.mono sub)
  rw [store_blank_volatile, store_blank_volatile] at stores
  exact stores.symm

end Storage

/-- No id that was issued is issued again, and the clock does not go back. -/
structure Source.Precedes (source later : Source) : Prop where
  issued : source.issued ≤ later.issued
  micros : source.micros ≤ later.micros

namespace Source.Precedes

variable {source middle later : Source}

theorem refl (source : Source) : source.Precedes source := ⟨Nat.le_refl _, Int.le_refl _⟩

theorem trans (first : source.Precedes middle) (second : middle.Precedes later) :
    source.Precedes later :=
  ⟨Nat.le_trans first.issued second.issued, Int.le_trans first.micros second.micros⟩

end Source.Precedes

namespace Storage

/-- What a storage becomes when at most some parts change. -/
structure Becomes (parts : List Part) (storage reached : Storage) : Prop where
  same : SameBut parts storage reached
  later : storage.source.Precedes reached.source

namespace Becomes

variable {parts : List Part} {storage : Storage}

theorem refl (parts : List Part) (storage : Storage) : Becomes parts storage storage :=
  ⟨rfl, .refl _⟩

theorem issued {reached : Storage} (becomes : Becomes parts storage reached) :
    storage.source.issued ≤ reached.source.issued := becomes.later.issued

theorem trans {middle reached : Storage} (first : Becomes parts storage middle)
    (second : Becomes parts middle reached) : Becomes parts storage reached :=
  ⟨first.same.trans second.same, first.later.trans second.later⟩

theorem mono {more : List Part} {reached : Storage} (becomes : Becomes parts storage reached)
    (sub : parts ⊆ more) : Becomes more storage reached := ⟨becomes.same.mono sub, becomes.later⟩

theorem store_eq {reached : Storage} (becomes : Becomes parts storage reached)
    (sub : parts ⊆ volatile) : reached.store = storage.store := becomes.same.store_eq sub

theorem setMemory {before after : Memory} (content : storage.store = .memory before)
    (same : before.blank parts = after.blank parts) :
    Becomes parts storage { storage with store := .memory after } := by
  refine ⟨?_, .refl _⟩
  simp only [SameBut, blank, content, Store.blank, same]

theorem setSql {before after : Sql} (content : storage.store = .sql before)
    (same : before.blank parts = after.blank parts) :
    Becomes parts storage { storage with store := .sql after } := by
  refine ⟨?_, .refl _⟩
  simp only [SameBut, blank, content, Store.blank, same]

theorem draw {source : Source} (storage : Storage) (later : storage.source.Precedes source) :
    Becomes [.source] storage { storage with source } := by
  refine ⟨?_, later⟩
  simp [SameBut, blank]

theorem missSession (storage : Storage) (rest : Nat) :
    Becomes [.sessionLookups] storage { storage with staleSessions := rest } := by
  refine ⟨?_, .refl _⟩
  simp [SameBut, blank]

theorem missContact (storage : Storage) (rest : Nat) :
    Becomes [.contactLookups] storage { storage with staleContacts := rest } := by
  refine ⟨?_, .refl _⟩
  simp [SameBut, blank]

end Becomes

instance (parts : List Part) : IsPreorder Storage (Becomes parts) where
  refl storage := Becomes.refl parts storage
  trans _ _ _ first second := first.trans second

end Storage

/-- A request that changes at most some parts. -/
def Touches {α : Type} (parts : List Part) (action : StoreM α) : Prop :=
  Within (Storage.Becomes parts) action

theorem Touches.mono {α : Type} {parts more : List Part} {action : StoreM α}
    (h : Touches parts action) (sub : parts ⊆ more) : Touches more action :=
  Within.mono h fun _ _ becomes => becomes.mono sub

theorem Touches.reads {α : Type} {action : StoreM α} (reads : Touches [] action) (storage : Storage) :
    outcome action storage = ((outcome action storage).1, storage) :=
  Prod.ext rfl (reads storage).same.eq

theorem Touches.issued_bind {α β : Type} (parts : List Part) {next : α → StoreM β}
    (rest : ∀ value, Touches parts (next value)) (action : StoreM α) (storage : Storage) :
    (outcome action storage).2.source.issued ≤
      (outcome (action >>= next) storage).2.source.issued := by
  rw [outcome_bind]
  rcases outcome action storage with ⟨answer, reached⟩
  cases answer with
  | ok value => exact (rest value reached).issued
  | error failure => exact Nat.le_refl _

/-! ### How requests run -/

namespace Storage

variable {α : Type}

theorem outcome_check (kind : Request) (storage : Storage) :
    outcome (check kind) storage =
      (if kind ∈ storage.broken then .error .storeDown else .ok (), storage) := by
  rw [check, outcome_get_bind]
  split <;> rfl

theorem outcome_begin (storage : Storage) :
    outcome begin storage = (if storage.down then .error .storeDown else .ok (), storage) := by
  rw [begin, outcome_get_bind]
  split <;> rfl

theorem outcome_request (kind : Request) (onMemory : Memory → StoreM α) (onSql : Sql → StoreM α)
    (storage : Storage) :
    outcome (request kind onMemory onSql) storage =
      if kind ∈ storage.broken then (.error .storeDown, storage)
      else match storage.store with
        | .memory memory => outcome (onMemory memory) storage
        | .sql sql =>
          if storage.down then (.error .storeDown, storage) else outcome (onSql sql) storage := by
  rw [request, outcome_bind, outcome_check]
  by_cases broken : kind ∈ storage.broken
  · simp only [broken, ↓reduceIte]
  · simp only [broken, ↓reduceIte]
    rw [outcome_get_bind]
    cases storage.store with
    | memory memory => rfl
    | sql sql =>
      dsimp only
      rw [outcome_bind, outcome_begin]
      cases storage.down <;> rfl

theorem answer_request (kind : Request) (onMemory : Memory → StoreM α) (onSql : Sql → StoreM α)
    (storage : Storage) :
    (outcome (request kind onMemory onSql) storage).1 =
      if kind ∈ storage.broken then .error .storeDown
      else match storage.store with
        | .memory memory => (outcome (onMemory memory) storage).1
        | .sql sql =>
          if storage.down then .error .storeDown else (outcome (onSql sql) storage).1 := by
  rw [outcome_request]
  split
  · rfl
  · split
    · rfl
    · split <;> rfl

theorem outcome_draw (action : Draw α) (storage : Storage) :
    outcome (draw action) storage =
      (.ok (action.run storage.source).1,
        { storage with source := (action.run storage.source).2 }) := rfl

theorem outcome_ofExcept (answer : Except Failure α) (storage : Storage) :
    outcome (ofExcept answer) storage = (answer, storage) := by
  cases answer <;> rfl

theorem outcome_lookUpSession (botId senderId : String) (sql : Sql) (storage : Storage) :
    outcome (lookUpSession botId senderId sql) storage =
      match storage.staleSessions with
      | 0 => (.ok (sql.sessionRow? botId senderId), storage)
      | rest + 1 => (.ok none, { storage with staleSessions := rest }) := by
  rw [lookUpSession, outcome_get_bind]
  cases storage.staleSessions <;> rfl

theorem outcome_lookUpContact (botId senderId : String) (sql : Sql) (storage : Storage) :
    outcome (lookUpContact botId senderId sql) storage =
      match storage.staleContacts with
      | 0 => (.ok (sql.contact? botId senderId), storage)
      | rest + 1 => (.ok none, { storage with staleContacts := rest }) := by
  rw [lookUpContact, outcome_get_bind]
  cases storage.staleContacts <;> rfl

/-- The first of several attempts decides unless it meets a taken key. -/
theorem outcome_retrying (attempt : Sql → StoreM α) (attempts : Nat) {storage : Storage} {sql : Sql}
    (content : storage.store = .sql sql) :
    outcome (retrying attempt attempts) storage =
      match attempts, outcome (attempt sql) storage with
      | more + 1, (.error .keyTaken, reached) => outcome (retrying attempt more) reached
      | _, decided => decided := by
  cases attempts with
  | zero => rw [retrying, outcome_get_bind, content]
  | succ more =>
    rw [retrying, outcome_get_bind, content]
    dsimp only
    rw [outcome_tryCatch]
    rcases outcome (attempt sql) storage with ⟨answer, reached⟩
    cases answer with
    | ok value => rfl
    | error failure => cases failure <;> rfl

theorem outcome_retrying_memory (attempt : Sql → StoreM α) (attempts : Nat) {storage : Storage}
    {memory : Memory} (content : storage.store = .memory memory) :
    outcome (retrying attempt attempts) storage = (.error .storeDown, storage) := by
  cases attempts <;> rw [retrying, outcome_get_bind, content] <;> rfl

/-- What holds of each attempt, and before an attempt that met a taken key if it holds after it, holds
of all attempts together. -/
theorem retrying_ends {attempt : Sql → StoreM α} (Ends : Storage → Except Failure α × Storage → Prop)
    (memory : ∀ storage memory, storage.store = .memory memory →
      Ends storage (.error .storeDown, storage))
    (tries : ∀ storage sql, storage.store = .sql sql → Ends storage (outcome (attempt sql) storage))
    (again : ∀ storage sql reached ended, storage.store = .sql sql →
      outcome (attempt sql) storage = (.error .keyTaken, reached) → Ends reached ended →
      Ends storage ended)
    (attempts : Nat) (storage : Storage) :
    Ends storage (outcome (retrying attempt attempts) storage) := by
  induction attempts generalizing storage with
  | zero =>
    cases content : storage.store with
    | memory content' =>
      rw [outcome_retrying_memory _ _ content]
      exact memory storage content' content
    | sql sql =>
      rw [outcome_retrying _ _ content]
      exact tries storage sql content
  | succ attempts ih =>
    cases content : storage.store with
    | memory content' =>
      rw [outcome_retrying_memory _ _ content]
      exact memory storage content' content
    | sql sql =>
      rw [outcome_retrying _ _ content]
      split
      · rename_i same taken
        cases same
        exact again storage sql _ _ content taken (ih _)
      · exact tries storage sql content

end Storage

theorem Within.request {α : Type} {R : Storage → Storage → Prop} [IsPreorder Storage R]
    {kind : Request} {onMemory : Memory → StoreM α} {onSql : Sql → StoreM α}
    (memory : ∀ storage memory, storage.store = .memory memory →
      R storage (outcome (onMemory memory) storage).2)
    (sql : ∀ storage sql, storage.store = .sql sql → R storage (outcome (onSql sql) storage).2) :
    Within R (Storage.request kind onMemory onSql) := by
  intro storage
  rw [Storage.outcome_request]
  split
  · exact Std.Refl.refl storage
  · split
    · rename_i content
      exact memory _ _ content
    · rename_i content
      split
      · exact Std.Refl.refl storage
      · exact sql _ _ content

end Parley

/-! ## Answers

What a store answers: nothing but a failure when it refuses a request, else what is in its tables.
-/

namespace Parley.Storage

def refuses (storage : Storage) (kind : Request) : Bool :=
  kind ∈ storage.broken ||
    match storage.store with
    | .memory _ => false
    | .sql _ => storage.down

theorem outcome_request_eq {α : Type} (kind : Request) (onMemory : Memory → StoreM α)
    (onSql : Sql → StoreM α) (storage : Storage) :
    outcome (request kind onMemory onSql) storage =
      if storage.refuses kind then (.error .storeDown, storage)
      else match storage.store with
        | .memory memory => outcome (onMemory memory) storage
        | .sql sql => outcome (onSql sql) storage := by
  rw [outcome_request, refuses]
  by_cases out : kind ∈ storage.broken
  · simp [out]
  · cases content : storage.store with
    | memory memory => simp [out]
    | sql sql => simp [out]

/-- What becomes of a store in which something is written. -/
def written (onMemory : Memory → Memory) (onSql : Sql → Except Failure Sql) :
    Store → Except Failure Store
  | .memory memory => .ok (.memory (onMemory memory))
  | .sql sql => (onSql sql).map .sql

theorem outcome_write (kind : Request) (onMemory : Memory → Memory)
    (onSql : Sql → Except Failure Sql) (storage : Storage) :
    outcome (request kind (fun memory => setMemory (onMemory memory))
        fun sql => do setSql (← ofExcept (onSql sql))) storage =
      if storage.refuses kind then (.error .storeDown, storage)
      else match written onMemory onSql storage.store with
        | .ok store => (.ok (), { storage with store })
        | .error failure => (.error failure, storage) := by
  rw [outcome_request_eq]
  split
  · rfl
  · cases storage.store with
    | memory memory => rfl
    | sql sql =>
      dsimp only
      rw [outcome_bind, outcome_ofExcept, written]
      cases onSql sql <;> rfl

def flagged? (botId flagName : String) (storage : Storage) : Except Failure (Option String) :=
  if .findFlagged ∈ storage.broken then .error .storeDown
  else match storage.store with
    | .memory memory => memory.flagged? botId flagName
    | .sql sql =>
      match Sql.rowFlag? flagName with
      | some flag => if storage.down then .error .storeDown else .ok (sql.flagged? botId flag)
      | none => .error (.unknownFlag flagName)

theorem outcome_findFlagged_eq (botId flagName : String) (storage : Storage) :
    outcome (findFlagged botId flagName) storage = (storage.flagged? botId flagName, storage) := by
  rw [findFlagged, outcome_bind, outcome_check, flagged?]
  by_cases out : .findFlagged ∈ storage.broken
  · simp only [out, if_true]
  · simp only [out, if_false]
    rw [outcome_get_bind]
    cases storage.store with
    | memory memory => rw [outcome_ofExcept]
    | sql sql =>
      dsimp only
      cases Sql.rowFlag? flagName with
      | none => rfl
      | some flag =>
        dsimp only
        rw [outcome_bind, outcome_begin]
        cases storage.down <;> rfl

end Parley.Storage
