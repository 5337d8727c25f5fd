import Parley.Loose.World
import Parley.Proofs.Storage.Confinement
import Parley.Proofs.Storage.Entries
import Parley.Proofs.Storage.Listings

/-!
The latest entries of a log. A log is built by requests to add one entry each, of which a database refuses
those under an id that it has, and it is asked for its last entries up to a limit.
-/

namespace Parley

/-- The moment of an entry, whatever clock shows it. A clock without offset is on universal time. -/
def LogEntry.moment (entry : LogEntry) : Int :=
  entry.timestamp.micros -
    entry.timestamp.offsetMinutes.getD 0 * 60 * Timestamp.microsPerSecond

/-! ### Building a log -/

def Store.withEntries (entries : List LogEntry) : Store → Store
  | .memory content => .memory { content with entries := content.entries ++ entries }
  | .sql content => .sql { content with entries := content.entries ++ entries }

namespace Storage

def logged : List LogEntry → Storage → List LogEntry × Storage
  | [], storage => ([], storage)
  | entry :: rest, storage =>
    match outcome (addEntry entry) storage with
    | (.ok _, reached) => (entry :: (logged rest reached).1, (logged rest reached).2)
    | (.error _, reached) => logged rest reached

variable {storage : Storage}

theorem Works.outcome_addEntry (works : storage.Works) (entry : LogEntry) :
    outcome (addEntry entry) storage =
      if entry.id ∈ storage.store.entryIds then (.error .keyTaken, storage)
      else (.ok (), { storage with store := storage.store.withEntries [entry] }) := by
  rw [addEntry, outcome_write, works.refuses, if_neg Bool.false_ne_true]
  cases holds : storage.store with
  | memory memory => rfl
  | sql sql =>
    have taken : sql.entries.any (·.id = entry.id) = true ↔ entry.id ∈ (Store.sql sql).entryIds := by
      simp [Store.entryIds]
    rw [written, Sql.addEntry]
    by_cases member : entry.id ∈ (Store.sql sql).entryIds
    · rw [if_pos member, if_pos (taken.mpr member)]
      rfl
    · rw [if_neg member, if_neg (mt taken.mp member)]
      rfl

theorem logged_sublist (entries : List LogEntry) (storage : Storage) :
    (logged entries storage).1.Sublist entries := by
  induction entries generalizing storage with
  | nil => exact .slnil
  | cons entry rest ih =>
    rw [logged]
    split
    · exact (ih _).cons_cons entry
    · exact (ih _).cons entry

theorem Works.logged_eq (works : storage.Works) (entries : List LogEntry) :
    (logged entries storage).2 =
      { storage with store := storage.store.withEntries (logged entries storage).1 } := by
  induction entries generalizing storage with
  | nil => cases holds : storage.store <;> simp [logged, Store.withEntries, ← holds]
  | cons entry rest ih =>
    rw [logged, works.outcome_addEntry]
    by_cases taken : entry.id ∈ storage.store.entryIds
    · rw [if_pos taken]
      exact ih works
    · rw [if_neg taken]
      have later := @ih { storage with store := storage.store.withEntries [entry] }
        ⟨works.whole, works.up⟩
      dsimp only at later ⊢
      rw [later]
      cases storage.store <;> simp [Store.withEntries]

theorem Works.logged_memory (works : storage.Works) {memory : Memory}
    (holds : storage.store = .memory memory) (entries : List LogEntry) :
    (logged entries storage).1 = entries := by
  induction entries generalizing storage memory with
  | nil => rfl
  | cons entry rest ih =>
    have free : entry.id ∉ (Store.memory memory).entryIds := List.not_mem_nil
    rw [logged, works.outcome_addEntry, holds, if_neg free]
    exact congrArg (entry :: ·) (ih ⟨works.whole, works.up⟩ rfl)

theorem Works.logged_sql (works : storage.Works) {sql : Sql} (holds : storage.store = .sql sql)
    {entries : List LogEntry} (apart : (sql.entries.map (·.id) ++ entries.map (·.id)).Nodup) :
    (logged entries storage).1 = entries := by
  induction entries generalizing storage sql with
  | nil => rfl
  | cons entry rest ih =>
    have free : entry.id ∉ (Store.sql sql).entryIds := by
      intro taken
      have differ := (List.nodup_append.mp apart).2.2
      exact differ _ taken _ (by simp) rfl
    rw [logged, works.outcome_addEntry, holds, if_neg free]
    refine congrArg (entry :: ·) (ih ⟨works.whole, works.up⟩ rfl ?_)
    simpa using apart

end Storage

/-! ### Listing a log -/

/-- The last records of a list, as many as a limit allows. -/
def Latest {α : Type} (limit : Int) (records listed : List α) : Prop :=
  listed <:+ records ∧ (listed.length : Int) = min limit records.length

theorem Latest.drop {α : Type} {limit : Int} (nonneg : 0 ≤ limit) (records : List α) :
    Latest limit records (records.drop (records.length - limit.toNat)) := by
  refine ⟨List.drop_suffix _ _, ?_⟩
  rw [List.length_drop]
  omega

theorem Latest.tail {α : Type} {limit : Int} (nonneg : 0 ≤ limit) (records : List α) :
    Latest (if limit = 0 then records.length else limit) records (Table.tail limit records) := by
  rw [Table.tail]
  split
  · exact ⟨List.suffix_rfl, (min_self _).symm⟩
  · rw [if_neg (Int.not_lt.mpr nonneg)]
    exact Latest.drop nonneg records

theorem latest_tail_iff {α : Type} {limit : Int} (nonneg : 0 ≤ limit) (records : List α) :
    Latest limit records (Table.tail limit records) ↔ (limit = 0 → records = []) := by
  have tail := Latest.tail nonneg records
  by_cases zero : limit = 0
  · subst zero
    rw [if_pos rfl] at tail
    constructor
    · rintro ⟨-, length⟩ -
      have none : Table.tail 0 records = records := rfl
      rw [none] at length
      exact List.eq_nil_iff_length_eq_zero.mpr (by omega)
    · intro none
      rw [none rfl]
      exact Latest.drop nonneg []
  · rw [if_neg zero] at tail
    exact ⟨fun _ none => absurd none zero, fun _ => tail⟩

namespace Loose

variable {σ α : Type}

theorem outcome_ask (action : StoreM α) (world : World σ) :
    outcome (ask action : Act σ α) world =
      ((outcome action world.storage).1.mapError .failed,
        { world with storage := (outcome action world.storage).2 }) := by
  have tended : outcome (tend action.run : Act σ (Except Failure α)) world =
      (.ok (outcome action world.storage).1,
        { world with storage := (outcome action world.storage).2 }) := rfl
  rw [ask, outcome_bind, tended]
  cases (outcome action world.storage).1 <;> rfl

theorem outcome_reach {world : World σ} (works : world.storage.Works) (request : Request) :
    outcome (reach request : Act σ Unit) world = (.ok (), world) := by
  rw [reach, outcome_bind, outcome_ask, Storage.outcome_check, works.whole, if_neg List.not_mem_nil]
  dsimp only [Except.mapError]
  rw [outcome_get_bind]
  cases world.storage.store with
  | memory memory => rfl
  | sql sql =>
    dsimp only
    rw [outcome_ask, Storage.outcome_begin, works.up]
    rfl

theorem outcome_ask_listEntries {world : World σ} (works : world.storage.Works) (botId : String)
    (senderId : Option String) (limit : Option Int) :
    outcome (ask (Storage.listEntries botId senderId limit) : Act σ (List LogEntry)) world =
      (.ok (match world.storage.store with
        | .memory memory => memory.listEntries botId senderId limit
        | .sql sql => sql.listEntries botId senderId limit), world) := by
  rw [outcome_ask, Storage.listEntries, Storage.outcome_request_eq, works.refuses,
    if_neg Bool.false_ne_true]
  cases world.storage.store <;> rfl

/-- What a log is asked for: its last entries up to a limit, of one sender or of all. -/
def latest (botId : String) (senderId : Option String) (limit : Int) : Act σ (List LogEntry) :=
  listEntries botId (.ofOption senderId) (.obj [("limit", .int limit)])

theorem outcome_latest {world : World σ} (works : world.storage.Works) (botId : String)
    (senderId : Option String) (limit : Int) :
    outcome (latest botId senderId limit) world =
      (match world.storage.store with
        | .memory memory => .ok (memory.listEntries botId senderId (some limit))
        | .sql sql =>
          if Cell.isLong limit then .error (.failed (.column .tooLarge))
          else .ok (sql.listEntries botId senderId (some limit)), world) := by
  have counted : ofAnswer (only ["limit"] (.obj [("limit", .int limit)])) = (pure () : Act σ Unit) := rfl
  have given : (Json.obj [("limit", .int limit)]).fieldOr "limit" (.int 50) = .int limit := rfl
  have lists := outcome_ask_listEntries works botId
  rw [latest, listEntries, counted, pure_bind,
    outcome_bind_of_ok (outcome_reach works .listEntries), outcome_get_bind, given]
  cases holds : world.storage.store with
  | memory memory =>
    have whole : entryLimit (.memory memory) (.int limit) = .ok (some limit) := rfl
    rw [holds] at lists
    dsimp only
    rw [whole]
    cases senderId with
    | none => exact lists none (some limit)
    | some senderId => exact lists (some senderId) (some limit)
  | sql sql =>
    rw [holds] at lists
    have whole : entryLimit (.sql sql) (.int limit) =
        if Cell.isLong limit then .error (.failed (.column .tooLarge)) else .ok (some limit) := by
      change (if Cell.isLong limit then _ else _) = _
      cases Cell.isLong limit <;> rfl
    dsimp only
    rw [whole]
    cases Cell.isLong limit with
    | true => rfl
    | false =>
      cases senderId with
      | none => exact lists none (some limit)
      | some senderId => exact lists (some senderId) (some limit)

end Loose

/-- A log that was built from nothing is asked for its latest entries. Memory takes a limit of zero for
none at all, so it answers all entries that match, where there should be none. A database answers as many
as the limit allows, as long as it can count so far and the readings of the clocks, which it goes by,
increase as the moments do. -/
theorem latest_entries_are_listed {σ : Type} {world : World σ} (works : world.storage.Works)
    (blank : world.storage.store.entries = []) (entries : List LogEntry)
    (later : entries.Pairwise fun entry other => entry.moment < other.moment) (botId : String)
    (senderId : Option String) {limit : Int} (nonneg : 0 ≤ limit) :
    let kept := (Storage.logged entries world.storage).1
    let matching := kept.filter (·.isOf botId senderId)
    let reached := { world with storage := (Storage.logged entries world.storage).2 }
    let answer := outcome (Loose.latest botId senderId limit) reached
    (matching.Pairwise fun entry other => entry.moment < other.moment) ∧
      match world.storage.store with
      | .memory _ => kept = entries ∧ ∃ listed, answer = (.ok listed, reached) ∧
          Latest (if limit = 0 then matching.length else limit) matching listed ∧
          (Latest limit matching listed ↔ (limit = 0 → matching = []))
      | .sql _ => ((entries.map (·.id)).Nodup → kept = entries) ∧
          if Cell.isLong limit then answer = (.error (.failed (.column .tooLarge)), reached)
          else (matching.Pairwise fun entry other =>
              entry.timestamp.micros < other.timestamp.micros) →
            ∃ listed, answer = (.ok listed, reached) ∧ Latest limit matching listed := by
  intro kept matching reached answer
  have grown := works.logged_eq entries
  have working : reached.storage.Works := by
    rw [show reached.storage = _ from grown]
    exact ⟨works.whole, works.up⟩
  have answered : answer = _ := Loose.outcome_latest working botId senderId limit
  have store : reached.storage.store = world.storage.store.withEntries kept := by
    rw [show reached.storage = _ from grown]
  rw [store] at answered
  refine ⟨(later.sublist (Storage.logged_sublist entries world.storage)).filter _, ?_⟩
  cases holds : world.storage.store with
  | memory memory =>
    rw [holds] at answered blank
    have log : memory.entries ++ kept = kept := by
      rw [show memory.entries = [] from blank, List.nil_append]
    refine ⟨works.logged_memory holds entries, Table.tail limit matching, ?_,
      Latest.tail nonneg matching, latest_tail_iff nonneg matching⟩
    rw [answered]
    dsimp only [Store.withEntries, Memory.listEntries, Option.getD_some]
    rw [log]
  | sql sql =>
    rw [holds] at answered blank
    have log : sql.entries ++ kept = kept := by
      rw [show sql.entries = [] from blank, List.nil_append]
    refine ⟨fun apart => works.logged_sql holds ?_, ?_⟩
    · rwa [show sql.entries = [] from blank]
    · dsimp only [Store.withEntries] at answered
      rw [log] at answered
      split
      · rename_i long
        rw [answered, if_pos long]
      · rename_i short
        intro readings
        refine ⟨_, by rw [answered, if_neg short], ?_⟩
        rw [Sql.listEntries_drop nonneg readings]
        exact Latest.drop nonneg matching

def earlyEntry (id : String) (minutes ahead : Int) : LogEntry where
  id := id
  botId := "bot-1"
  senderId := "u1"
  content := id
  direction := .incoming
  timestamp := ⟨minutes * 60 * Timestamp.microsPerSecond, some ahead⟩

def threeEntries : List LogEntry := [earlyEntry "m1" 1 0, earlyEntry "m2" 2 0, earlyEntry "m3" 3 0]

def blankWorld (store : Store) : World Unit where
  storage := { store, source := { micros := 0 } }
  gateway := { name := "console", medium := () }

def loggedWorld (entries : List LogEntry) (store : Store) : World Unit :=
  { blankWorld store with storage := (Storage.logged entries (blankWorld store).storage).2 }

/-- Of three entries, the last two are listed if two are asked for. -/
theorem two_of_three_are_listed :
    (∃ listed, (outcome (Loose.latest "bot-1" none 2) (loggedWorld threeEntries (.memory {}))).1 =
        .ok listed ∧ Latest 2 threeEntries listed) ∧
      ∃ listed, (outcome (Loose.latest "bot-1" none 2) (loggedWorld threeEntries (.sql {}))).1 =
        .ok listed ∧ Latest 2 threeEntries listed := by
  have later : threeEntries.Pairwise fun entry other => entry.moment < other.moment := by decide
  have readings : threeEntries.Pairwise fun entry other =>
      entry.timestamp.micros < other.timestamp.micros := by decide
  have two : (0 : Int) ≤ 2 := by decide
  obtain ⟨-, -, inMemory, answered, -, latest⟩ := @latest_entries_are_listed Unit
    (blankWorld (.memory {})) ⟨rfl, rfl⟩ rfl threeEntries later "bot-1" none 2 two
  obtain ⟨-, -, lists⟩ := @latest_entries_are_listed Unit (blankWorld (.sql {})) ⟨rfl, rfl⟩ rfl
    threeEntries later "bot-1" none 2 two
  obtain ⟨inRows, answered', latest'⟩ := lists readings
  exact ⟨⟨inMemory, congrArg Prod.fst answered, latest.mpr nofun⟩, inRows,
    congrArg Prod.fst answered', latest'⟩

def twoClocks : List LogEntry := [earlyEntry "m1" 720 120, earlyEntry "m2" 660 0]

/-- With a limit of zero, memory lists all entries; with a limit that it cannot count to, a database lists
none; and of two clocks it takes the one that is ahead for the later one. -/
theorem latest_entries_are_missed :
    ((threeEntries.Pairwise fun entry other => entry.moment < other.moment) ∧
      (outcome (Loose.latest "bot-1" none 0) (loggedWorld threeEntries (.memory {}))).1 =
        .ok threeEntries ∧ ¬ Latest 0 threeEntries threeEntries) ∧
    (∃ fault, (outcome (Loose.latest "bot-1" none (Nat.pow 2 63))
      (loggedWorld threeEntries (.sql {}))).1 = .error fault) ∧
    (twoClocks.Pairwise fun entry other => entry.moment < other.moment) ∧
      (outcome (Loose.latest "bot-1" none 50) (loggedWorld twoClocks (.sql {}))).1 =
        .ok twoClocks.reverse ∧ ¬ Latest 50 twoClocks twoClocks.reverse := by
  have listed : Sql.listEntries "bot-1" none (some 50) { entries := twoClocks } = twoClocks.reverse := by
    have rows : twoClocks.filter (·.isOf "bot-1" none) = twoClocks := rfl
    have sorted := LogEntry.sorted_eq (by decide : twoClocks.reverse.Pairwise fun entry other =>
      entry.timestamp.micros < other.timestamp.micros)
      ((List.mergeSort_perm twoClocks fun entry other => entry.senderId ≤ other.senderId).trans
        twoClocks.reverse_perm.symm)
    rw [Sql.listEntries, rows, sorted]
    rfl
  refine ⟨⟨by decide, rfl, fun latest => absurd latest.2 (by decide)⟩, ⟨_, rfl⟩, by decide, ?_,
    fun latest => absurd latest.1 (by decide)⟩
  exact congrArg Except.ok listed

end Parley
