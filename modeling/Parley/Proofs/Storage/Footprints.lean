import Parley.Proofs.Storage.Owners
import Parley.Proofs.Storage.Parts
import Parley.Turn.Bookkeeping
import Parley.Turn.Sessions

/-!
What each request to the store touches. Reading touches no record, and keeping the books on a
message touches neither sessions nor content.
-/

namespace Parley

open Storage (Part logParts Becomes)

variable {α : Type}

namespace Source

/-- A draw that issues no id again and does not turn the clock back. -/
def Issues (action : Draw α) : Prop :=
  ∀ source : Source, source.Precedes (action.run source).2

theorem Issues.bind {β : Type} {action : Draw α} {next : α → Draw β} (first : Issues action)
    (rest : ∀ value, Issues (next value)) : Issues (action >>= next) := fun source =>
  (first source).trans (rest _ _)

theorem Issues.pure (value : α) : Issues (Pure.pure value) := fun source => .refl source

theorem freshId_issues : Issues freshId := fun _ => ⟨Nat.le_succ _, Int.le_refl _⟩

theorem now_issues : Issues now := fun _ => ⟨Nat.le_refl _, Int.le_add_one (Int.le_refl _)⟩

theorem today_issues : Issues today := now_issues.bind fun _ => .pure _

end Source

theorem Within.retrying {R : Storage → Storage → Prop} [IsPreorder Storage R]
    {attempt : Sql → StoreM α}
    (each : ∀ storage sql, storage.store = .sql sql → R storage (outcome (attempt sql) storage).2)
    (attempts : Nat) : Within R (Storage.retrying attempt attempts) := by
  refine Storage.retrying_ends (fun storage ended => R storage ended.2)
    (fun storage _ _ => Std.Refl.refl storage) each ?_ attempts
  intro storage sql reached ended content taken later
  have first := each storage sql content
  rw [taken] at first
  exact IsTrans.trans _ _ _ first later

namespace Touches

theorem draw {action : Draw α} (issues : Source.Issues action) :
    Touches [.source] (Storage.draw action) := fun storage => Becomes.draw storage (issues _)

theorem ofExcept (parts : List Part) (answer : Except Failure α) :
    Touches parts (Storage.ofExcept answer) := by
  cases answer with
  | ok value => exact Within.pure value
  | error failure => exact Within.throw failure

/-! ### Reading -/

theorem getBlock (botId blockId : String) : Touches [] (Storage.getBlock botId blockId) :=
  Within.request (fun storage _ _ => Becomes.refl _ storage)
    fun storage _ _ => Touches.ofExcept [] _ storage

theorem listBlocks (botId : String) (enabledOnly : Bool) :
    Touches [] (Storage.listBlocks botId enabledOnly) :=
  Within.request (fun storage _ _ => Becomes.refl _ storage)
    fun storage _ _ => Becomes.refl _ storage

theorem getFlow (botId flowId : String) : Touches [] (Storage.getFlow botId flowId) :=
  Within.request (fun storage _ _ => Becomes.refl _ storage)
    fun storage _ _ => Touches.ofExcept [] _ storage

theorem listFlows (botId : String) (activeOnly : Bool) :
    Touches [] (Storage.listFlows botId activeOnly) :=
  Within.request (fun storage _ _ => Becomes.refl _ storage)
    fun storage _ _ => Becomes.refl _ storage

theorem getCount (botId : String) (day : Day) : Touches [] (Storage.getCount botId day) :=
  Within.request (fun storage _ _ => Becomes.refl _ storage)
    fun storage _ _ => Becomes.refl _ storage

theorem findFlagged (botId flagName : String) : Touches [] (Storage.findFlagged botId flagName) := by
  intro storage
  rw [Storage.outcome_findFlagged_eq]
  exact Becomes.refl _ storage

theorem lookUpSession (botId senderId : String) (sql : Sql) :
    Touches [.sessionLookups] (Storage.lookUpSession botId senderId sql) := by
  intro storage
  rw [Storage.outcome_lookUpSession]
  split
  · exact Becomes.refl _ storage
  · exact Becomes.missSession storage _

theorem lookUpContact (botId senderId : String) (sql : Sql) :
    Touches [.contactLookups] (Storage.lookUpContact botId senderId sql) := by
  intro storage
  rw [Storage.outcome_lookUpContact]
  split
  · exact Becomes.refl _ storage
  · exact Becomes.missContact storage _

theorem getSession (botId senderId : String) :
    Touches [.sessionLookups] (Storage.getSession botId senderId) := by
  apply Within.request
  · intro storage memory content
    exact Becomes.refl _ storage
  · intro storage sql content
    apply Within.bind (Touches.lookUpSession botId senderId sql)
    intro found
    cases found with
    | none => exact Within.pure none
    | some row => exact Within.bind (Touches.ofExcept _ _) fun session => Within.pure (some session)

theorem getContact (botId senderId : String) :
    Touches [.contactLookups] (Storage.getContact botId senderId) := by
  apply Within.request
  · intro storage memory content
    exact Becomes.refl _ storage
  · intro storage sql content
    exact Touches.lookUpContact botId senderId sql storage

end Touches

/-! ### Writing -/

theorem Touches.after_reading {β : Type} {reading parts : List Part} {storage : Storage}
    {read : StoreM α} {write : α → StoreM β} (reads : Touches reading read)
    (volatile : reading ⊆ Storage.volatile) (sub : reading ⊆ parts)
    (writes : ∀ value reached, reached.store = storage.store →
      Becomes parts reached (outcome (write value) reached).2) :
    Becomes parts storage (outcome (read >>= write) storage).2 := by
  have same := reads storage
  rw [outcome_bind]
  rcases run : outcome read storage with ⟨answer, reached⟩
  rw [run] at same
  cases answer with
  | ok value => exact (same.mono sub).trans (writes value reached (same.store_eq volatile))
  | error failure => exact same.mono sub

theorem Sql.saveBlock_same {block : Block} {sql saved : Sql} (h : sql.saveBlock block = .ok saved) :
    sql.blank [.blocks] = saved.blank [.blocks] := by
  rw [Sql.saveBlock_rows] at h
  generalize Table.saveRow _ _ _ _ _ _ = saved? at h
  cases saved? <;> cases h
  simp [Sql.blank]

theorem Sql.saveFlow_same {flow : Flow} {sql saved : Sql} (h : sql.saveFlow flow = .ok saved) :
    sql.blank [.flows] = saved.blank [.flows] := by
  rw [Sql.saveFlow_rows] at h
  generalize Table.saveRow _ _ _ _ _ _ = saved? at h
  cases saved? <;> cases h
  simp [Sql.blank]

theorem Sql.insertContact_same {contact : Contact} {sql saved : Sql}
    (h : sql.insertContact contact = .ok saved) : sql.blank [.contacts] = saved.blank [.contacts] := by
  unfold Sql.insertContact at h
  split at h
  · cases h
  · cases h
    simp [Sql.blank]

theorem Sql.addEntry_same {entry : LogEntry} {sql saved : Sql} (h : sql.addEntry entry = .ok saved) :
    sql.blank [.entries] = saved.blank [.entries] := by
  unfold Sql.addEntry at h
  split at h
  · cases h
  · cases h
    simp [Sql.blank]

theorem Sql.insertCount_same {botId : String} {day : Day} {direction : Direction} {newUser : Bool}
    {sql saved : Sql} (h : sql.insertCount botId day direction newUser = .ok saved) :
    sql.blank [.counts] = saved.blank [.counts] := by
  unfold Sql.insertCount at h
  split at h
  · cases h
  · cases h
    simp [Sql.blank]

theorem Storage.Becomes.setComputed {parts : List Part} {storage : Storage} {sql : Sql}
    {answer : Except Failure Sql} (content : storage.store = .sql sql)
    (same : ∀ saved, answer = .ok saved → sql.blank parts = saved.blank parts) :
    Becomes parts storage
      (outcome (do Storage.setSql (← Storage.ofExcept answer) : StoreM Unit) storage).2 := by
  rw [outcome_bind, Storage.outcome_ofExcept]
  cases answer with
  | error failure => exact Becomes.refl _ storage
  | ok saved => exact Becomes.setSql content (same saved rfl)

namespace Touches

theorem saveBlock (block : Block) : Touches [.blocks] (Storage.saveBlock block) := by
  apply Within.request
  · intro storage memory content
    exact Becomes.setMemory content (by simp [Memory.blank, Memory.saveBlock])
  · intro storage sql content
    exact Becomes.setComputed content fun saved h => Sql.saveBlock_same h

theorem saveFlow (flow : Flow) : Touches [.flows] (Storage.saveFlow flow) := by
  apply Within.request
  · intro storage memory content
    exact Becomes.setMemory content (by simp [Memory.blank, Memory.saveFlow])
  · intro storage sql content
    exact Becomes.setComputed content fun saved h => Sql.saveFlow_same h

theorem addEntry (entry : LogEntry) : Touches [.entries] (Storage.addEntry entry) := by
  apply Within.request
  · intro storage memory content
    exact Becomes.setMemory content (by simp [Memory.blank, Memory.addEntry])
  · intro storage sql content
    exact Becomes.setComputed content fun saved h => Sql.addEntry_same h

theorem newContact (botId senderId : String) (profile : Storage.Profile) :
    Touches [.source] (Storage.newContact botId senderId profile) := by
  apply Within.bind (Touches.draw Source.freshId_issues)
  intro id
  apply Within.bind (Touches.draw Source.now_issues)
  intro firstSeenAt
  apply Within.bind (Touches.draw Source.now_issues)
  intro lastSeenAt
  exact Within.pure _

theorem visit (profile : Storage.Profile) (contact : Contact) :
    Touches [.source] (Storage.visit profile contact) :=
  Within.bind (Touches.draw Source.now_issues) fun _ => Within.pure _

theorem upsertContact (botId senderId : String) (profile : Storage.Profile) :
    Touches [.contacts, .source, .contactLookups]
      (Storage.upsertContact botId senderId profile) := by
  apply Within.request
  · intro storage memory content
    have saved (contact : Contact) (reached : Storage) (kept : reached.store = storage.store) :
        Becomes [.contacts, .source, .contactLookups] reached
          { reached with store := .memory (memory.saveContact contact) } := by
      have written : Becomes [.contacts] reached
          { reached with store := .memory (memory.saveContact contact) } :=
        Becomes.setMemory (kept.trans content) (by simp [Memory.blank, Memory.saveContact])
      exact written.mono (by decide)
    cases memory.contact? botId senderId with
    | none =>
      exact Touches.after_reading (Touches.newContact botId senderId profile) (by decide) (by decide)
        saved
    | some contact =>
      exact Touches.after_reading (Touches.visit profile contact) (by decide) (by decide) saved
  · intro storage sql content
    apply Within.retrying
    intro storage sql content
    apply Touches.after_reading (Touches.lookUpContact botId senderId sql) (by decide) (by decide)
    intro found reached kept
    cases found with
    | none =>
      apply Touches.after_reading (Touches.newContact botId senderId profile) (by decide) (by decide)
      intro contact final still
      rw [outcome_bind, Storage.outcome_ofExcept]
      cases inserted : sql.insertContact contact with
      | error failure => exact Becomes.refl _ final
      | ok written =>
        have saved : Becomes [.contacts] final { final with store := .sql written } :=
          Becomes.setSql (still.trans (kept.trans content)) (Sql.insertContact_same inserted)
        exact saved.mono (by decide)
    | some contact =>
      apply Touches.after_reading (Touches.visit profile contact) (by decide) (by decide)
      intro contact final still
      have saved : Becomes [.contacts] final
          { final with store := .sql (sql.updateContact contact) } :=
        Becomes.setSql (still.trans (kept.trans content)) (by simp [Sql.blank, Sql.updateContact])
      exact saved.mono (by decide)

theorem bumpCount (botId : String) (day : Day) (direction : Direction) (newUser : Bool) :
    Touches [.counts, .source] (Storage.bumpCount botId day direction newUser) := by
  apply Within.request
  · intro storage memory content
    have saved : Becomes [.counts] storage
        { storage with store := .memory (memory.bumpCount botId day direction newUser).2 } :=
      Becomes.setMemory content (by simp [Memory.blank, Memory.bumpCount])
    exact saved.mono (by decide)
  · intro storage sql content
    have counted : Touches [.counts, .source]
        (Storage.retrying (Storage.bumpCount.attempt botId day direction newUser)
          (Storage.maxAttempts - 1)) := by
      apply Within.retrying
      intro storage sql content
      unfold Storage.bumpCount.attempt Sql.addToCount
      cases sql.counts.any (·.isOf botId day) with
      | true =>
        have saved : Becomes [.counts] storage
            { storage with store := .sql (sql.addToCount botId day direction newUser).2 } :=
          Becomes.setSql content (by simp [Sql.blank, Sql.addToCount])
        exact saved.mono (by decide)
      | false =>
        apply Touches.after_reading (Touches.draw Source.freshId_issues) (by decide) (by decide)
        intro id reached kept
        rw [outcome_bind, Storage.outcome_ofExcept]
        cases inserted : (sql.addToCount botId day direction newUser).2.insertCount botId day
          direction newUser with
        | error failure =>
          rw [Sql.addToCount] at inserted
          simp only [inserted]
          exact Becomes.refl _ reached
        | ok written =>
          have same : sql.blank [.counts] = written.blank [.counts] :=
            Eq.trans (by simp [Sql.blank, Sql.addToCount]) (Sql.insertCount_same inserted)
          have saved : Becomes [.counts] reached { reached with store := .sql written } :=
            Becomes.setSql (kept.trans content) same
          rw [Sql.addToCount] at inserted
          simp only [inserted]
          exact saved.mono (by decide)
    exact Within.bind counted
      (fun _ => (Touches.getCount botId day).mono (by decide)) storage

end Touches

/-! ### Keeping the books -/

theorem Bookkeeping.attempt_run (action : StoreM α) (storage : Storage) :
    (Bookkeeping.attempt action).run storage =
      ((outcome action storage).1.toOption, (outcome action storage).2) := by
  rw [attempt, StateT.run_bind, outcome]
  rcases StateT.run action.run storage with ⟨answer, reached⟩
  cases answer <;> rfl

namespace Touches

theorem recordVisit (botId senderId : String) (profile : Storage.Profile) :
    Touches [.contacts, .source, .contactLookups]
      (Bookkeeping.recordVisit botId senderId profile) := by
  apply Within.bind ((Touches.getContact botId senderId).mono (by decide))
  intro previous
  apply Within.bind (Touches.upsertContact botId senderId profile)
  intro contact
  cases previous with
  | none => exact Within.pure _
  | some previous =>
    exact Within.bind ((Touches.draw Source.today_issues).mono (by decide)) fun _ => Within.pure _

theorem addMessage (botId senderId content : String) (direction : Direction) (messageType : String) :
    Touches [.entries, .source]
      (Bookkeeping.addMessage botId senderId content direction messageType) := by
  apply Within.bind ((Touches.draw Source.freshId_issues).mono (by decide))
  intro id
  apply Within.bind ((Touches.draw Source.now_issues).mono (by decide))
  intro timestamp
  exact (Touches.addEntry _).mono (by decide)

theorem countMessage (botId : String) (direction : Direction) (newUser : Bool) :
    Touches [.counts, .source] (Bookkeeping.countMessage botId direction newUser) := by
  apply Within.bind ((Touches.draw Source.today_issues).mono (by decide))
  intro day
  exact Within.bind (Touches.bumpCount botId day direction newUser) fun _ => Within.pure _

theorem recordMessage (botId senderId content : String) (direction : Direction)
    (messageType : String) (newUser : Bool) :
    Touches logParts
      (Bookkeeping.recordMessage botId senderId content direction messageType newUser) := by
  apply Within.bind ((Touches.addMessage _ _ _ _ _).mono (by decide))
  intro _
  exact (Touches.countMessage botId direction newUser).mono (by decide)

end Touches

theorem Bookkeeping.track_becomes (botId senderId : String) (profile : Storage.Profile)
    (storage : Storage) :
    Becomes [.contacts, .source, .contactLookups] storage
      ((Bookkeeping.track botId senderId profile).run storage).2 := by
  rw [Bookkeeping.track, Bookkeeping.attempt_run]
  exact Touches.recordVisit botId senderId profile storage

theorem Bookkeeping.log_run (botId senderId content : String) (direction : Direction)
    (messageType : String) (newUser : Bool) (storage : Storage) :
    ((log botId senderId content direction messageType newUser).run storage).2 =
      (outcome (recordMessage botId senderId content direction messageType newUser) storage).2 := by
  change ((attempt (recordMessage botId senderId content direction messageType newUser)).run
    storage).2 = _
  rw [attempt_run]

theorem Bookkeeping.log_becomes (botId senderId content : String) (direction : Direction)
    (messageType : String) (newUser : Bool) (storage : Storage) :
    Becomes logParts storage
      ((Bookkeeping.log botId senderId content direction messageType newUser).run storage).2 := by
  rw [Bookkeeping.log_run]
  exact Touches.recordMessage botId senderId content direction messageType newUser storage

end Parley
