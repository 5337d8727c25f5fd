import Parley.Proofs.Storage.Content
import Parley.Proofs.Storage.Entries
import Parley.Proofs.Storage.Operations
import Parley.Proofs.Storage.Parts

/-!
The books of a store: its contacts, its message log and its daily counters. A store that works keeps
them alike in memory and in a database.
-/

namespace Parley

open Storage (Part Becomes TakesEntries)

structure Ledger where
  contacts : List Contact := []
  entries : List LogEntry := []
  counts : List DailyCount := []

def Store.ledger : Store → Ledger
  | .memory content => ⟨content.contacts, content.entries, content.counts⟩
  | .sql content => ⟨content.contacts, content.entries, content.counts⟩

namespace Ledger

def contact? (botId senderId : String) (ledger : Ledger) : Option Contact :=
  ledger.contacts.find? (·.isOf botId senderId)

def messagesOf (botId senderId : String) (ledger : Ledger) : Int :=
  ((ledger.contact? botId senderId).map (·.messageCount)).getD 0

/-- The counters of a day, which start at zero. -/
def count (botId : String) (day : Day) (ledger : Ledger) : DailyCount :=
  (ledger.counts.find? (·.isOf botId day)).getD { botId, day }

def greet (contact : Contact) (ledger : Ledger) : Ledger :=
  { ledger with
    contacts := Table.put (·.isOf contact.botId contact.senderId) contact ledger.contacts }

def enter (entry : LogEntry) (ledger : Ledger) : Ledger :=
  { ledger with entries := ledger.entries ++ [entry] }

def tally (botId : String) (day : Day) (direction : Direction) (newUser : Bool) (ledger : Ledger) :
    Ledger :=
  let count := (ledger.count botId day).bump direction newUser
  { ledger with counts := Table.put (·.isOf botId day) count ledger.counts }

section

variable {botId senderId : String} {contact : Contact} {ledger : Ledger}

theorem contact?_owner (found : ledger.contact? botId senderId = some contact) :
    contact ∈ ledger.contacts ∧ contact.botId = botId ∧ contact.senderId = senderId := by
  have owned := List.find?_some found
  simp only [Contact.isOf, Bool.and_eq_true, decide_eq_true_eq] at owned
  exact ⟨List.mem_of_find?_eq_some found, owned⟩

theorem contact?_greet (owner : contact.botId = botId ∧ contact.senderId = senderId) :
    (ledger.greet contact).contact? botId senderId = some contact := by
  obtain ⟨rfl, rfl⟩ := owner
  exact Table.find?_put_same (by simp [Contact.isOf]) ledger.contacts

theorem contact?_greet_of_apart (apart : contact.isOf botId senderId = false) :
    (ledger.greet contact).contact? botId senderId = ledger.contact? botId senderId := by
  have others (old : Contact) (replaced : old.isOf contact.botId contact.senderId) :
      old.isOf botId senderId = false := by
    simp only [Contact.isOf, Bool.and_eq_true, decide_eq_true_eq] at replaced
    rw [← apart, Contact.isOf, Contact.isOf, replaced.1, replaced.2]
  exact Table.find?_put_of_apart apart others ledger.contacts

end

end Ledger

theorem Storage.SameBut.ledger {parts : List Part} {storage other : Storage}
    (same : SameBut parts storage other) (contacts : .contacts ∉ parts) (entries : .entries ∉ parts)
    (counts : .counts ∉ parts) : other.store.ledger = storage.store.ledger := by
  have kept (store : Store) : (store.blank parts).ledger = store.ledger := by
    cases store <;> simp [Store.blank, Store.ledger, Memory.blank, Sql.blank, contacts, entries, counts]
  rw [← kept other.store, ← kept storage.store]
  exact congrArg (fun blanked : Storage => blanked.store.ledger) same.symm

/-- No request fails, and all look-ups are up to date. -/
structure Storage.Reliable (storage : Storage) : Prop where
  calm : storage.Calm
  contacts : storage.staleContacts = 0

namespace Storage

variable {storage reached : Storage} {botId senderId : String}

theorem SameBut.staleContacts {parts : List Part} (same : SameBut parts storage reached)
    (out : .contactLookups ∉ parts) : reached.staleContacts = storage.staleContacts := by
  have kept := congrArg Storage.staleContacts same
  simpa only [blank, out, if_false] using kept.symm

theorem SameBut.reliable {parts : List Part} (same : SameBut parts storage reached)
    (sessions : .sessionLookups ∉ parts) (contacts : .contactLookups ∉ parts)
    (reliable : storage.Reliable) : reached.Reliable := by
  exact ⟨same.calm sessions reliable.calm, (same.staleContacts contacts).trans reliable.contacts⟩

theorem Reliable.cases (reliable : storage.Reliable) :
    (∃ memory source, storage = onMemory memory source) ∨ ∃ sql source, storage = onSql sql source := by
  obtain ⟨⟨works, up, current⟩, contacts⟩ := reliable
  obtain ⟨store, source, broken, down, sessions, lookups⟩ := storage
  cases works
  cases up
  cases current
  cases contacts
  cases store with
  | memory memory => exact .inl ⟨memory, source, rfl⟩
  | sql sql => exact .inr ⟨sql, source, rfl⟩

theorem Reliable.drawn (reliable : storage.Reliable) (source : Source) :
    { storage with source }.Reliable :=
  ⟨⟨reliable.calm.works, reliable.calm.up, reliable.calm.current⟩, reliable.contacts⟩

theorem reliable_onMemory (memory : Memory) (source : Source) : (onMemory memory source).Reliable :=
  ⟨⟨rfl, rfl, rfl⟩, rfl⟩

theorem reliable_onSql (sql : Sql) (source : Source) : (onSql sql source).Reliable :=
  ⟨⟨rfl, rfl, rfl⟩, rfl⟩

/-! ### Visits -/

theorem Reliable.getContact (reliable : storage.Reliable) (botId senderId : String) :
    outcome (getContact botId senderId) storage =
      (.ok (storage.store.ledger.contact? botId senderId), storage) := by
  obtain ⟨memory, source, rfl⟩ | ⟨sql, source, rfl⟩ := reliable.cases
  · rfl
  · rw [Storage.getContact, outcome_request_onSql]
    exact outcome_lookUpContact botId senderId sql (onSql sql source)

structure Greets (botId senderId : String) (storage reached : Storage) (contact : Contact) : Prop where
  reliable : reached.Reliable
  ledger : reached.store.ledger = storage.store.ledger.greet contact
  bot : contact.botId = botId
  sender : contact.senderId = senderId
  counted : contact.messageCount = storage.store.ledger.messagesOf botId senderId + 1
  after : storage.source.micros ≤ contact.lastSeenAt.micros
  before : contact.lastSeenAt.micros < reached.source.micros

namespace Greets

variable {contact : Contact} {profile : Profile}

theorem of_known {seen : Contact} (reliable : reached.Reliable)
    (found : storage.store.ledger.contact? botId senderId = some contact)
    (visits : seen = contact.visit (Source.now.run storage.source).1 profile.name profile.picture)
    (ledger : reached.store.ledger = storage.store.ledger.greet seen)
    (source : reached.source = (Source.now.run storage.source).2) :
    Greets botId senderId storage reached seen := by
  have owned := List.find?_some found
  simp only [Contact.isOf, Bool.and_eq_true, decide_eq_true_eq] at owned
  have counted : storage.store.ledger.messagesOf botId senderId = contact.messageCount := by
    rw [Ledger.messagesOf, found]
    rfl
  subst visits
  refine ⟨reliable, ledger, owned.1, owned.2, ?_, Int.le_refl _, ?_⟩
  · rw [counted]
    rfl
  · rw [source]
    exact Int.lt_succ _

theorem of_unknown (reliable : reached.Reliable)
    (absent : storage.store.ledger.contact? botId senderId = none)
    (first : contact = firstContact botId senderId profile storage.source)
    (ledger : reached.store.ledger = storage.store.ledger.greet contact)
    (later : reached.source.micros = storage.source.micros + 1 + 1) :
    Greets botId senderId storage reached contact := by
  have counted : storage.store.ledger.messagesOf botId senderId = 0 := by
    rw [Ledger.messagesOf, absent]
    rfl
  subst first
  refine ⟨reliable, ledger, rfl, rfl, ?_, ?_, ?_⟩
  · rw [counted]
    rfl
  · exact Int.le_of_lt (Int.lt_succ _)
  · rw [later]
    exact Int.lt_succ _

theorem later {final : Storage} (greets : Greets botId senderId storage reached contact)
    (reliable : final.Reliable) (store : final.store = reached.store)
    (later : reached.source.micros ≤ final.source.micros) :
    Greets botId senderId storage final contact :=
  { greets with
    reliable
    ledger := (congrArg Store.ledger store).trans greets.ledger
    before := Int.lt_of_lt_of_le greets.before later }

end Greets

theorem Reliable.upsertContact (reliable : storage.Reliable) (botId senderId : String)
    (profile : Profile) :
    ∃ contact reached, outcome (upsertContact botId senderId profile) storage = (.ok contact, reached) ∧
      Greets botId senderId storage reached contact := by
  obtain ⟨memory, source, rfl⟩ | ⟨sql, source, rfl⟩ := reliable.cases
  · cases found : memory.contact? botId senderId with
    | some contact =>
      exact ⟨_, _, visit_onMemory found profile,
        .of_known (reliable_onMemory _ _) found rfl rfl rfl⟩
    | none =>
      exact ⟨_, _, meet_onMemory found profile,
        .of_unknown (reliable_onMemory _ _) found rfl rfl rfl⟩
  · cases found : sql.contact? botId senderId with
    | some contact =>
      let seen := contact.visit (Source.now.run source).1 profile.name profile.picture
      have owned := List.find?_some found
      simp only [Contact.isOf, Bool.and_eq_true, decide_eq_true_eq] at owned
      have kept : sql.contacts.find? (·.isOf seen.botId seen.senderId) = some contact := by
        rw [show seen.botId = botId from owned.1, show seen.senderId = senderId from owned.2]
        exact found
      have stored : (onSql (sql.updateContact seen) (Source.now.run source).2).store.ledger =
          (onSql sql source).store.ledger.greet seen :=
        congrArg (Ledger.mk · sql.entries sql.counts)
          (@Table.put_eq_update _ _ (fun _ => seen) _ _ kept).symm
      exact ⟨_, _, visit_onSql found profile,
        .of_known (reliable_onSql _ _) found rfl stored rfl⟩
    | none =>
      let first := firstContact botId senderId profile source
      let source' : Source := ⟨source.issued + 1, source.micros + 1 + 1⟩
      have stored :
          (onSql { sql with contacts := sql.contacts ++ [first] } source').store.ledger =
            (onSql sql source).store.ledger.greet first :=
        congrArg (Ledger.mk · sql.entries sql.counts) (Table.put_of_none found).symm
      exact ⟨_, _, meet_onSql found profile,
        .of_unknown (reliable_onSql _ _) found rfl stored rfl⟩

theorem Reliable.recordVisit (reliable : storage.Reliable) (botId senderId : String)
    (profile : Profile) :
    ∃ visit reached,
      outcome (Bookkeeping.recordVisit botId senderId profile) storage = (.ok visit, reached) ∧
      Greets botId senderId storage reached visit.contact ∧
      ∃ today : Timestamp, storage.source.micros ≤ today.micros ∧
        today.micros < reached.source.micros ∧
        visit.firstToday = (storage.store.ledger.contact? botId senderId).all
          (·.lastSeenAt.day ≠ today.day) := by
  obtain ⟨contact, reached, greeted, greets⟩ := reliable.upsertContact botId senderId profile
  have earlier : storage.source.micros < reached.source.micros :=
    Int.lt_of_le_of_lt greets.after greets.before
  rw [Bookkeeping.recordVisit, outcome_bind_of_ok (reliable.getContact botId senderId),
    outcome_bind_of_ok greeted]
  cases storage.store.ledger.contact? botId senderId with
  | none => exact ⟨_, reached, rfl, greets, ⟨storage.source.micros, some 0⟩, Int.le_refl _, earlier, rfl⟩
  | some previous =>
    dsimp only
    rw [outcome_bind_of_ok (outcome_draw _ _)]
    have last := Int.lt_succ reached.source.micros
    exact ⟨_, _, rfl, greets.later (greets.reliable.drawn _) rfl
      (Int.le_of_lt last), ⟨reached.source.micros, some 0⟩, Int.le_of_lt earlier, last, rfl⟩

/-! ### Messages -/

theorem Reliable.bumpCount (reliable : storage.Reliable) (botId : String) (day : Day)
    (direction : Direction) (newUser : Bool) :
    ∃ count reached,
      outcome (Storage.bumpCount botId day direction newUser) storage = (.ok count, reached) ∧
      reached.Reliable ∧
      reached.store.ledger = storage.store.ledger.tally botId day direction newUser ∧
      reached.source.micros = storage.source.micros := by
  obtain ⟨memory, source, rfl⟩ | ⟨sql, source, rfl⟩ := reliable.cases
  · exact ⟨_, _, rfl, reliable_onMemory _ _, rfl, rfl⟩
  · obtain ⟨issued, counted⟩ := bumpCount_onSql botId day direction newUser sql source
    exact ⟨_, _, counted, reliable_onSql _ _, rfl, rfl⟩

theorem SameBut.ledger_enters {entry : LogEntry} (same : SameBut [.entries, .source] storage reached)
    (added : reached.store.entries = storage.store.entries ++ [entry]) :
    reached.store.ledger = storage.store.ledger.enter entry := by
  cases content : storage.store with
  | memory memory =>
    obtain ⟨memory', content', blank⟩ := same.memory content
    rw [content, content'] at added
    have contacts := congrArg Memory.contacts blank
    have counts := congrArg Memory.counts blank
    rw [content']
    exact Ledger.mk.injEq .. |>.mpr ⟨contacts.symm, added, counts.symm⟩
  | sql sql =>
    obtain ⟨sql', content', blank⟩ := same.sql content
    rw [content, content'] at added
    have contacts := congrArg Sql.contacts blank
    have counts := congrArg Sql.counts blank
    rw [content']
    exact Ledger.mk.injEq .. |>.mpr ⟨contacts.symm, added, counts.symm⟩

structure Logs (botId senderId content : String) (direction : Direction) (messageType : String)
    (newUser : Bool) (storage reached : Storage) (entry : LogEntry) (counted : Timestamp) : Prop where
  reliable : reached.Reliable
  takes : reached.TakesEntries
  records : entry.Records botId senderId content direction messageType
  ledger : reached.store.ledger =
    (storage.store.ledger.enter entry).tally botId counted.day direction newUser
  after : storage.source.micros ≤ counted.micros
  last : reached.source.micros = counted.micros + 1

theorem Reliable.log (reliable : storage.Reliable) (takes : storage.TakesEntries)
    (bound : storage.source.issued < 2 ^ 64) (botId senderId content : String)
    (direction : Direction) (messageType : String) (newUser : Bool) :
    ∃ entry counted, Logs botId senderId content direction messageType newUser storage
      ((Bookkeeping.log botId senderId content direction messageType newUser).run storage).2 entry
      counted := by
  obtain ⟨entry, written, add, records, added, id, issued, later⟩ :=
    Bookkeeping.addMessage_adds takes bound botId senderId content direction messageType
  have writes := (Touches.addMessage botId senderId content direction messageType).apply add
  have works := writes.same.reliable (by decide) (by decide) reliable
  obtain ⟨count, reached, counting, counts, ledger, stopped⟩ :=
    (works.drawn (Source.now.run written.source).2).bumpCount botId
      (Source.today.run written.source).1 direction newUser
  have taken : written.TakesEntries :=
    takes.added (writes.same.mono (by decide)) issued id added
  have counted : outcome (Bookkeeping.countMessage botId direction newUser) written =
      (.ok (), reached) := by
    rw [Bookkeeping.countMessage, outcome_bind_of_ok (outcome_draw _ _)]
    exact outcome_bind_of_ok counting _
  rw [Bookkeeping.log_run, Bookkeeping.recordMessage, outcome_bind_of_ok add, counted]
  have tallies := (Touches.countMessage botId direction newUser).apply counted
  refine ⟨entry, ⟨written.source.micros, some 0⟩, counts, taken.after tallies (by decide), records,
    ?_, later, stopped⟩
  rw [ledger]
  exact congrArg (Ledger.tally botId _ direction newUser) (writes.same.ledger_enters added)

end Storage

end Parley
