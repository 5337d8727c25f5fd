import Mathlib.Data.Int.GCD
import Mathlib.Data.Nat.ModEq
import Parley.Proofs.Storage.Footprints

/-!
The message log. Ids are issued once, so a store that takes entries takes one more with every message
that is logged.
-/

namespace Parley

open Storage (Part logParts SameBut Becomes)

/-! ### Fresh ids -/

namespace Source

theorem hexDigit_injective {n m : Nat} (hn : n < 16) (hm : m < 16) (same : hexDigit n = hexDigit m) :
    n = m := by
  have all : ∀ a b : Fin 16, hexDigit a = hexDigit b → a = b := by decide
  exact Fin.mk.inj (all ⟨n, hn⟩ ⟨m, hm⟩ same)

theorem hexDigits_injective {width n m : Nat} (hn : n < 16 ^ width) (hm : m < 16 ^ width)
    (same : hexDigits width n = hexDigits width m) : n = m := by
  induction width generalizing n m with
  | zero => omega
  | succ width ih =>
    rw [hexDigits, hexDigits] at same
    obtain ⟨leading, last⟩ := List.append_inj' same rfl
    have high := ih (Nat.div_lt_of_lt_mul (by omega)) (Nat.div_lt_of_lt_mul (by omega)) leading
    have low := hexDigit_injective (Nat.mod_lt n (by decide)) (Nat.mod_lt m (by decide))
      (List.singleton_inj.mp last)
    omega

theorem modEq_of_idOf {n m : Nat} (same : idOf n = idOf m) : n ≡ m [MOD 2 ^ 64] := by
  have digits := String.ofList_injective same
  have spreads : (n + 1) * spread ≡ (m + 1) * spread [MOD 2 ^ 64] :=
    hexDigits_injective (Nat.mod_lt _ (by decide)) (Nat.mod_lt _ (by decide)) digits
  have odd : Nat.gcd (2 ^ 64) spread = 1 := by decide
  exact Nat.ModEq.add_right_cancel' 1 (Nat.ModEq.cancel_right_of_coprime odd spreads)

theorem idOf_injective {n m : Nat} (hn : n < 2 ^ 64) (hm : m < 2 ^ 64) (same : idOf n = idOf m) :
    n = m := Nat.ModEq.eq_of_lt_of_lt (modEq_of_idOf same) hn hm

theorem hexDigits_length (width number : Nat) : (hexDigits width number).length = width := by
  induction width generalizing number with
  | zero => rfl
  | succ width ih => rw [hexDigits, List.length_append, ih]; rfl

theorem idOf_length (number : Nat) : (idOf number).toList.length = 16 := by
  rw [idOf, String.toList_ofList, hexDigits_length]

theorem idOf_succ_ne (number : Nat) : idOf (number + 1) ≠ idOf number := by
  intro same
  have numbers : number + 1 ≡ number + 0 [MOD 2 ^ 64] := modEq_of_idOf same
  have none := Nat.ModEq.add_left_cancel' number numbers
  exact absurd none (by decide)

end Source

/-! ### Entries -/

def Store.entries : Store → List LogEntry
  | .memory content => content.entries
  | .sql content => content.entries

namespace Storage

theorem SameBut.entries {parts : List Part} {storage other : Storage}
    (same : SameBut parts storage other) (out : .entries ∉ parts) :
    other.store.entries = storage.store.entries := by
  have kept (store : Store) : (store.blank parts).entries = store.entries := by
    cases store <;> simp [Store.blank, Store.entries, Memory.blank, Sql.blank, out]
  rw [← kept other.store, ← kept storage.store]
  exact congrArg (fun blanked : Storage => blanked.store.entries) same.symm

/-- The store takes entries: it is in order, and no entry has an id that is still to be issued. -/
structure TakesEntries (storage : Storage) : Prop where
  works : .addEntry ∉ storage.broken
  up : storage.down = false
  fresh : ∀ number, storage.source.issued ≤ number → number < 2 ^ 64 →
    ∀ entry ∈ storage.store.entries, entry.id ≠ Source.idOf number

theorem TakesEntries.after {parts : List Part} {storage reached : Storage}
    (takes : storage.TakesEntries) (becomes : Becomes parts storage reached)
    (out : .entries ∉ parts) : reached.TakesEntries where
  works := by
    rw [becomes.same.broken]
    exact takes.works
  up := by
    rw [becomes.same.down]
    exact takes.up
  fresh number issued bound := by
    rw [becomes.same.entries out]
    exact takes.fresh number (Nat.le_trans becomes.issued issued) bound

theorem addEntry_adds {storage : Storage} (takes : storage.TakesEntries) (entry : LogEntry)
    (unused : ∀ other ∈ storage.store.entries, other.id ≠ entry.id) :
    ∃ reached, outcome (addEntry entry) storage = (.ok (), reached) ∧
      reached.store.entries = storage.store.entries ++ [entry] := by
  rw [addEntry, outcome_request, if_neg takes.works, takes.up]
  cases content : storage.store with
  | memory memory => exact ⟨_, rfl, rfl⟩
  | sql sql =>
    rw [content] at unused
    have free : ¬ sql.entries.any (·.id = entry.id) := by
      intro taken
      obtain ⟨other, member, same⟩ := List.any_eq_true.mp taken
      exact unused other member (of_decide_eq_true same)
    refine ⟨{ storage with store := .sql { sql with entries := sql.entries ++ [entry] } }, ?_, rfl⟩
    dsimp only
    rw [outcome_bind, outcome_ofExcept, Sql.addEntry, if_neg free]
    rfl

theorem TakesEntries.added {storage reached : Storage} (takes : storage.TakesEntries)
    (same : SameBut logParts storage reached)
    (issued : storage.source.issued < reached.source.issued) {entry : LogEntry}
    (id : entry.id = Source.idOf storage.source.issued)
    (added : reached.store.entries = storage.store.entries ++ [entry]) : reached.TakesEntries where
  works := by
    rw [same.broken]
    exact takes.works
  up := by
    rw [same.down]
    exact takes.up
  fresh number later bound other member := by
    have earlier := Nat.lt_of_lt_of_le issued later
    rw [added] at member
    rcases List.mem_append.mp member with kept | new
    · exact takes.fresh number (Nat.le_of_lt earlier) bound other kept
    · -- the new entry has a number that was issued before
      rw [List.mem_singleton.mp new, id]
      intro taken
      exact Nat.ne_of_lt earlier (Source.idOf_injective (Nat.lt_trans earlier bound) bound taken)

end Storage

open Storage (TakesEntries)

structure LogEntry.Records (botId senderId content : String) (direction : Direction)
    (messageType : String) (entry : LogEntry) : Prop where
  bot : entry.botId = botId
  sender : entry.senderId = senderId
  content : entry.content = content
  direction : entry.direction = direction
  kind : entry.messageType = messageType

namespace Bookkeeping

theorem addMessage_adds {storage : Storage} (takes : storage.TakesEntries)
    (bound : storage.source.issued < 2 ^ 64) (botId senderId content : String)
    (direction : Direction) (messageType : String) :
    ∃ entry reached,
      outcome (addMessage botId senderId content direction messageType) storage = (.ok (), reached) ∧
      entry.Records botId senderId content direction messageType ∧
      reached.store.entries = storage.store.entries ++ [entry] ∧
      entry.id = Source.idOf storage.source.issued ∧
      storage.source.issued < reached.source.issued ∧
      storage.source.micros ≤ reached.source.micros := by
  rw [addMessage, outcome_bind_of_ok (Storage.outcome_draw _ _),
    outcome_bind_of_ok (Storage.outcome_draw _ _)]
  have stamped : Becomes [.source] storage
      { storage with source := ⟨storage.source.issued + 1, storage.source.micros + 1⟩ } :=
    Becomes.draw storage ⟨Nat.le_succ _, Int.le_add_one (Int.le_refl _)⟩
  obtain ⟨reached, add, added⟩ := Storage.addEntry_adds (takes.after stamped (by decide))
    ⟨Source.idOf storage.source.issued, botId, senderId, content, direction, messageType,
      ⟨storage.source.micros, some 0⟩⟩ (takes.fresh storage.source.issued (Nat.le_refl _) bound)
  have writes := (Touches.addEntry _).apply add
  have stopped := congrArg Source.micros (writes.same.source (by decide))
  exact ⟨_, reached, add, ⟨rfl, rfl, rfl, rfl, rfl⟩, added, rfl, writes.issued,
    (Int.le_add_of_nonneg_right Int.one_nonneg).trans_eq stopped.symm⟩

theorem addMessage_issues (botId senderId content : String) (direction : Direction)
    (messageType : String) (storage : Storage) : storage.source.issued <
      (outcome (addMessage botId senderId content direction messageType) storage).2.source.issued := by
  rw [addMessage, outcome_bind_of_ok (Storage.outcome_draw _ _)]
  have rest (entry : Timestamp → LogEntry) : Touches [.entries, .source] (do
      let timestamp ← Storage.draw Source.now
      Storage.addEntry (entry timestamp)) := by
    apply Within.bind ((Touches.draw Source.now_issues).mono (by decide))
    intro timestamp
    exact (Touches.addEntry _).mono (by decide)
  refine Nat.lt_of_lt_of_le ?_
    (rest (fun timestamp => ⟨_, botId, senderId, content, direction, messageType, timestamp⟩) _).issued
  exact Nat.lt_succ_self _

theorem log_issues (botId senderId content : String) (direction : Direction) (messageType : String)
    (newUser : Bool) (storage : Storage) : storage.source.issued <
      ((log botId senderId content direction messageType newUser).run storage).2.source.issued := by
  have issued := addMessage_issues botId senderId content direction messageType storage
  rw [log_run, recordMessage, outcome_bind]
  rcases run : outcome (addMessage botId senderId content direction messageType) storage with
    ⟨answer, reached⟩
  rw [run] at issued
  cases answer with
  | error failure => exact issued
  | ok _ =>
    exact Nat.lt_of_lt_of_le issued (Touches.countMessage botId direction newUser reached).issued

theorem log_adds {storage : Storage} (takes : storage.TakesEntries)
    (bound : storage.source.issued < 2 ^ 64) (botId senderId content : String)
    (direction : Direction) (messageType : String) (newUser : Bool) :
    ∃ entry : LogEntry, entry.Records botId senderId content direction messageType ∧
      ((log botId senderId content direction messageType newUser).run storage).2.store.entries =
        storage.store.entries ++ [entry] ∧
      ((log botId senderId content direction messageType newUser).run storage).2.TakesEntries := by
  obtain ⟨entry, written, add, records, added, id, issued, _⟩ :=
    addMessage_adds takes bound botId senderId content direction messageType
  have writes := (Touches.addMessage botId senderId content direction messageType).apply add
  have counted := Touches.countMessage botId direction newUser written
  rw [log_run, recordMessage, outcome_bind_of_ok add]
  have entries := (counted.same.entries (by decide)).trans added
  have same : Becomes logParts storage (outcome (countMessage botId direction newUser) written).2 :=
    (writes.mono (by decide)).trans (counted.mono (by decide))
  refine ⟨entry, records, entries, ?_⟩
  exact takes.added same.same (Nat.lt_of_lt_of_le issued counted.issued) id entries

end Bookkeeping

end Parley
