import Parley.Proofs.Storage.Parts
import Parley.Proofs.Storage.Unseen

/-!
Requests that make no difference between two stores with other sessions: all that are not about a
session, and what is built from them.
-/

namespace Parley

open Storage (SameBut)

variable {α β : Type} {sessions : List Session} {rows : List SessionRow} {storage : Storage}

def Memory.seat (sessions : List Session) (content : Memory) : Memory := { content with sessions }

def Sql.seat (rows : List SessionRow) (content : Sql) : Sql := { content with sessions := rows }

/-- A storage with other sessions: the first ones if it is in memory, else the second ones. -/
def Storage.seat (sessions : List Session) (rows : List SessionRow) (storage : Storage) : Storage :=
  { storage with
    store := match storage.store with
      | .memory content => .memory (content.seat sessions)
      | .sql content => .sql (content.seat rows) }

theorem Storage.seat_memory {content : Memory} (holds : storage.store = .memory content) :
    (storage.seat sessions rows).store = .memory (content.seat sessions) := by
  rw [seat, holds]

theorem Storage.seat_sql {content : Sql} (holds : storage.store = .sql content) :
    (storage.seat sessions rows).store = .sql (content.seat rows) := by
  rw [seat, holds]

theorem Storage.seat_same (sessions : List Session) (rows : List SessionRow) (storage : Storage) :
    SameBut [.sessions] storage (storage.seat sessions rows) := by
  have stores : (storage.seat sessions rows).store.blank [.sessions] =
      storage.store.blank [.sessions] := by
    rw [seat]
    cases storage.store <;> rfl
  simp only [SameBut, blank, stores]
  rfl

theorem Memory.seat_of_blank {content other : Memory}
    (same : content.blank [.sessions] = other.blank [.sessions]) :
    other = content.seat other.sessions := by
  obtain ⟨bots, sessions, blocks, flows, contacts, entries, counts⟩ := content
  obtain ⟨bots', sessions', blocks', flows', contacts', entries', counts'⟩ := other
  cases same
  rfl

theorem Sql.seat_of_blank {content other : Sql}
    (same : content.blank [.sessions] = other.blank [.sessions]) :
    other = content.seat other.sessions := by
  obtain ⟨bots, sessions, blocks, flows, contacts, entries, counts⟩ := content
  obtain ⟨bots', sessions', blocks', flows', contacts', entries', counts'⟩ := other
  cases same
  rfl

theorem Storage.SameBut.seat {other : Storage} (same : SameBut [.sessions] storage other) :
    ∃ sessions rows, other = storage.seat sessions rows := by
  obtain ⟨store, source, broken, down, staleSessions, staleContacts⟩ := storage
  obtain ⟨store', source', broken', down', staleSessions', staleContacts'⟩ := other
  have rest := same
  simp only [SameBut, blank, mk.injEq] at rest
  obtain ⟨-, sources, rfl, rfl, lookups, lookups'⟩ := rest
  cases sources
  cases lookups
  cases lookups'
  cases store with
  | memory content =>
    obtain ⟨content', rfl, blank⟩ := same.memory rfl
    exact ⟨content'.sessions, [], by rw [Memory.seat_of_blank blank]; rfl⟩
  | sql content =>
    obtain ⟨content', holds, blank⟩ := same.sql rfl
    cases holds
    exact ⟨[], content'.sessions, by rw [Sql.seat_of_blank blank]; rfl⟩

/-- An action has the same answer in a storage with other sessions as another action without them, and
leaves the same storage but for the sessions. -/
def SeatedAt (sessions : List Session) (rows : List SessionRow) (storage : Storage)
    (action seated : StoreM α) : Prop :=
  outcome seated (storage.seat sessions rows) =
    ((outcome action storage).1, (outcome action storage).2.seat sessions rows)

/-- An action to which it makes no difference which sessions there are. -/
def Overlooks (action : StoreM α) : Prop :=
  ∀ sessions rows storage, SeatedAt sessions rows storage action action

theorem SeatedAt.bind {action seated : StoreM α} {next next' : α → StoreM β}
    (first : SeatedAt sessions rows storage action seated)
    (rest : ∀ value reached, outcome action storage = (.ok value, reached) →
      SeatedAt sessions rows reached (next value) (next' value)) :
    SeatedAt sessions rows storage (action >>= next) (seated >>= next') := by
  rw [SeatedAt, outcome_bind, outcome_bind, first]
  rcases run : outcome action storage with ⟨answer, reached⟩
  cases answer with
  | ok value => exact rest value reached run
  | error failure => rfl

theorem SeatedAt.setMemory (memory : Memory) : SeatedAt sessions rows storage
    (Storage.setMemory memory) (Storage.setMemory (memory.seat sessions)) := rfl

theorem SeatedAt.setSql (sql : Sql) : SeatedAt sessions rows storage (Storage.setSql sql)
    (Storage.setSql (sql.seat rows)) := rfl

theorem SeatedAt.ofExcept {answer : Except Failure α} {change : α → α} {next next' : α → StoreM β}
    (rest : ∀ value, SeatedAt sessions rows storage (next value) (next' (change value))) :
    SeatedAt sessions rows storage (Storage.ofExcept answer >>= next)
      (Storage.ofExcept (answer.map change) >>= next') := by
  cases answer with
  | ok value => exact rest value
  | error failure => rfl

namespace Overlooks

theorem pure (value : α) : Overlooks (Pure.pure value : StoreM α) := fun _ _ _ => rfl

theorem throw (failure : Failure) : Overlooks (MonadExcept.throw failure : StoreM α) :=
  fun _ _ _ => rfl

theorem bind {action : StoreM α} {next : α → StoreM β} (first : Overlooks action)
    (rest : ∀ value, Overlooks (next value)) : Overlooks (action >>= next) :=
  fun sessions rows storage => (first sessions rows storage).bind fun value reached _ =>
    rest value sessions rows reached

theorem draw (action : Draw α) : Overlooks (Storage.draw action) := fun _ _ _ => rfl

theorem ofExcept (answer : Except Failure α) : Overlooks (Storage.ofExcept answer) := by
  cases answer with
  | ok value => exact pure value
  | error failure => exact throw failure

theorem request {kind : Request} {onMemory : Memory → StoreM α} {onSql : Sql → StoreM α}
    (memory : ∀ sessions rows content storage, storage.store = .memory content →
      SeatedAt sessions rows storage (onMemory content) (onMemory (content.seat sessions)))
    (sql : ∀ sessions rows content storage, storage.store = .sql content →
      SeatedAt sessions rows storage (onSql content) (onSql (content.seat rows))) :
    Overlooks (Storage.request kind onMemory onSql) := by
  intro sessions rows storage
  have broken : (storage.seat sessions rows).broken = storage.broken := rfl
  have down : (storage.seat sessions rows).down = storage.down := rfl
  rw [SeatedAt, Storage.outcome_request, Storage.outcome_request, broken, down]
  split
  · rfl
  · cases holds : storage.store with
    | memory content =>
      rw [Storage.seat_memory holds]
      exact memory sessions rows content storage holds
    | sql content =>
      rw [Storage.seat_sql holds]
      dsimp only
      split
      · rfl
      · exact sql sessions rows content storage holds

theorem retrying {attempt : Sql → StoreM α}
    (each : ∀ sessions rows sql storage, storage.store = .sql sql →
      SeatedAt sessions rows storage (attempt sql) (attempt (sql.seat rows)))
    (attempts : Nat) : Overlooks (Storage.retrying attempt attempts) := by
  induction attempts with
  | zero =>
    intro sessions rows storage
    cases holds : storage.store with
    | memory content =>
      rw [SeatedAt, Storage.outcome_retrying_memory _ _ holds,
        Storage.outcome_retrying_memory _ _ (Storage.seat_memory holds)]
    | sql content =>
      rw [SeatedAt, Storage.outcome_retrying _ _ holds,
        Storage.outcome_retrying _ _ (Storage.seat_sql holds)]
      exact each sessions rows content storage holds
  | succ attempts ih =>
    intro sessions rows storage
    cases holds : storage.store with
    | memory content =>
      rw [SeatedAt, Storage.outcome_retrying_memory _ _ holds,
        Storage.outcome_retrying_memory _ _ (Storage.seat_memory holds)]
    | sql content =>
      have first := each sessions rows content storage holds
      rw [SeatedAt] at first
      rw [SeatedAt, Storage.outcome_retrying _ _ holds,
        Storage.outcome_retrying _ _ (Storage.seat_sql holds), first]
      rcases outcome (attempt content) storage with ⟨answer, reached⟩
      cases answer with
      | ok value => rfl
      | error failure =>
        cases failure with
        | keyTaken => exact ih sessions rows reached
        | _ => rfl

/-! ### Content -/

theorem getBlock (botId blockId : String) : Overlooks (Storage.getBlock botId blockId) :=
  request (fun _ _ _ _ _ => rfl) fun _ _ content _ _ => ofExcept (content.block? botId blockId) _ _ _

theorem listBlocks (botId : String) (enabledOnly : Bool) :
    Overlooks (Storage.listBlocks botId enabledOnly) :=
  request (fun _ _ _ _ _ => rfl) fun _ _ _ _ _ => rfl

theorem getFlow (botId flowId : String) : Overlooks (Storage.getFlow botId flowId) :=
  request (fun _ _ _ _ _ => rfl) fun _ _ content _ _ => ofExcept (content.flow? botId flowId) _ _ _

theorem listFlows (botId : String) (activeOnly : Bool) :
    Overlooks (Storage.listFlows botId activeOnly) :=
  request (fun _ _ _ _ _ => rfl) fun _ _ _ _ _ => rfl

theorem findFlagged (botId flagName : String) : Overlooks (Storage.findFlagged botId flagName) := by
  intro sessions rows storage
  have same : (storage.seat sessions rows).flagged? botId flagName =
      storage.flagged? botId flagName := by
    rw [Storage.flagged?, Storage.flagged?]
    cases holds : storage.store with
    | memory content => rw [Storage.seat_memory holds]; rfl
    | sql content => rw [Storage.seat_sql holds]; rfl
  rw [SeatedAt, Storage.outcome_findFlagged_eq, Storage.outcome_findFlagged_eq, same]

theorem saveBlock (block : Block) : Overlooks (Storage.saveBlock block) := by
  apply request
  · intro sessions rows content storage _
    exact SeatedAt.setMemory (content.saveBlock block)
  · intro sessions rows content storage _
    have seated : (content.seat rows).saveBlock block =
        (content.saveBlock block).map (·.seat rows) := by
      have blocks : (content.seat rows).blocks = content.blocks := rfl
      unfold Sql.saveBlock
      rw [blocks]
      split
      · rfl
      · cases Sql.nextSeq ((content.blocks.filter (·.botId = block.botId)).map (·.seq)) <;> rfl
    rw [seated]
    exact SeatedAt.ofExcept fun sql => SeatedAt.setSql sql

/-! ### Contacts -/

theorem lookUpContact (botId senderId : String) (sql : Sql) :
    Overlooks (Storage.lookUpContact botId senderId sql) := by
  intro sessions rows storage
  rw [SeatedAt, Storage.outcome_lookUpContact, Storage.outcome_lookUpContact]
  have stale : (storage.seat sessions rows).staleContacts = storage.staleContacts := rfl
  rw [stale]
  cases storage.staleContacts <;> rfl

theorem getContact (botId senderId : String) : Overlooks (Storage.getContact botId senderId) :=
  request (fun _ _ _ _ _ => rfl) fun _ _ content _ _ => lookUpContact botId senderId content _ _ _

theorem newContact (botId senderId : String) (profile : Storage.Profile) :
    Overlooks (Storage.newContact botId senderId profile) :=
  bind (draw _) fun _ => bind (draw _) fun _ => bind (draw _) fun _ => pure _

theorem visit (profile : Storage.Profile) (contact : Contact) :
    Overlooks (Storage.visit profile contact) := bind (draw _) fun _ => pure _

theorem upsertContact (botId senderId : String) (profile : Storage.Profile) :
    Overlooks (Storage.upsertContact botId senderId profile) := by
  apply request
  · intro sessions rows content storage _
    have saved (contact : Contact) (reached : Storage) : SeatedAt sessions rows reached
        (Storage.setMemory (content.saveContact contact) >>= fun _ => Pure.pure contact)
        (Storage.setMemory ((content.seat sessions).saveContact contact) >>= fun _ =>
          Pure.pure contact) := rfl
    have known : (content.seat sessions).contact? botId senderId =
        content.contact? botId senderId := rfl
    rw [known]
    cases content.contact? botId senderId with
    | some contact =>
      exact (visit profile contact sessions rows storage).bind fun contact _ _ => saved contact _
    | none =>
      exact (newContact botId senderId profile sessions rows storage).bind fun contact _ _ =>
        saved contact _
  · intro sessions rows _ storage _
    refine retrying (fun sessions rows sql storage _ => ?_) _ sessions rows storage
    refine (lookUpContact botId senderId sql sessions rows storage).bind fun known reached _ => ?_
    cases known with
    | some contact =>
      refine (visit profile contact sessions rows reached).bind fun contact _ _ => ?_
      exact (SeatedAt.setSql (sql.updateContact contact)).bind fun _ _ _ => pure contact _ _ _
    | none =>
      refine (newContact botId senderId profile sessions rows reached).bind fun contact _ _ => ?_
      have seated : (sql.seat rows).insertContact contact =
          (sql.insertContact contact).map (·.seat rows) := by
        unfold Sql.insertContact Sql.seat
        split <;> rfl
      rw [seated]
      refine SeatedAt.ofExcept fun sql => ?_
      exact (SeatedAt.setSql sql).bind fun _ _ _ => pure contact _ _ _

/-! ### Messages and counters -/

theorem addEntry (entry : LogEntry) : Overlooks (Storage.addEntry entry) := by
  apply request
  · intro sessions rows content storage _
    exact SeatedAt.setMemory (content.addEntry entry)
  · intro sessions rows content storage _
    have seated : (content.seat rows).addEntry entry = (content.addEntry entry).map (·.seat rows) := by
      unfold Sql.addEntry Sql.seat
      split <;> rfl
    rw [seated]
    exact SeatedAt.ofExcept fun sql => SeatedAt.setSql sql

theorem getCount (botId : String) (day : Day) : Overlooks (Storage.getCount botId day) :=
  request (fun _ _ _ _ _ => rfl) fun _ _ _ _ _ => rfl

theorem bumpCount (botId : String) (day : Day) (direction : Direction) (newUser : Bool) :
    Overlooks (Storage.bumpCount botId day direction newUser) := by
  apply request
  · intro sessions rows content storage _
    rfl
  · intro sessions rows _ storage _
    refine bind (retrying (fun sessions rows sql storage _ => ?_) _)
      (fun _ => getCount botId day) sessions rows storage
    rw [Storage.bumpCount.attempt, Storage.bumpCount.attempt, Sql.addToCount, Sql.addToCount]
    have counted : (sql.seat rows).counts = sql.counts := rfl
    rw [counted]
    cases sql.counts.any (·.isOf botId day) with
    | true => rfl
    | false =>
      refine (draw Source.freshId sessions rows storage).bind fun _ reached _ => ?_
      have seated (sql : Sql) : (sql.seat rows).insertCount botId day direction newUser =
          (sql.insertCount botId day direction newUser).map (·.seat rows) := by
        unfold Sql.insertCount Sql.seat
        split <;> rfl
      change SeatedAt sessions rows reached _ (Storage.ofExcept
        ((Sql.seat rows { sql with counts := _ }).insertCount botId day direction newUser) >>= _)
      rw [seated]
      exact SeatedAt.ofExcept fun sql => SeatedAt.setSql sql

/-! ### Keeping the books -/

theorem recordVisit (botId senderId : String) (profile : Storage.Profile) :
    Overlooks (Bookkeeping.recordVisit botId senderId profile) := by
  refine bind (getContact botId senderId) fun previous => ?_
  refine bind (upsertContact botId senderId profile) fun contact => ?_
  cases previous with
  | none => exact pure _
  | some previous => exact bind (draw _) fun _ => pure _

theorem recordMessage (botId senderId content : String) (direction : Direction)
    (messageType : String) (newUser : Bool) :
    Overlooks (Bookkeeping.recordMessage botId senderId content direction messageType newUser) := by
  refine bind (bind (draw _) fun _ => bind (draw _) fun _ => addEntry _) fun _ => ?_
  exact bind (draw _) fun day => bind (bumpCount botId day direction newUser) fun _ => pure _

theorem respects {action : StoreM α} (overlooks : Overlooks action) :
    Respects (SameBut [.sessions]) action := by
  intro storage other same
  obtain ⟨sessions, rows, rfl⟩ := same.seat
  rw [overlooks sessions rows storage]
  exact ⟨rfl, Storage.seat_same sessions rows _⟩

end Overlooks

end Parley
