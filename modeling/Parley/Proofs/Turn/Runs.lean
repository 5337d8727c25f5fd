import Parley.Proofs.Turn.Books
import Parley.Proofs.Turn.History

/-!
Ordinary runs: turns of any senders, content that is saved, and changes that leave the store working.
Every turn of such a run is received and kept in the books.
-/

namespace Parley

open Storage (Part Becomes)

variable {σ : Type}

namespace Turn

variable (carry : Carrier σ) (options : Options) (bot : Bot) (incoming : Incoming)

def turnParts : List Part :=
  [.sessions, .sessionLookups, .contacts, .contactLookups, .entries, .counts, .blocks, .source]

theorem ready_touches : Touches turnParts (ready options bot incoming) := by
  intro storage
  have gets := Touches.getOrCreate bot.id incoming.senderId storage
  rcases getting : outcome (Session.getOrCreate bot.id incoming.senderId) storage with
    ⟨failure | session, found⟩
  all_goals rw [getting] at gets
  · have refused : outcome (receive bot incoming) storage = (.error failure, found) := by
      rw [outcome_receive, getting]
    rw [ready_of_failed refused]
    exact gets.mono (by decide)
  · rw [ready_of_received (receive_of_found getting)]
    have books := keepBooks_becomes bot incoming found
    have opens := openReceived_touches options incoming.text session
      ((keepBooks bot incoming).run found).2
    exact ((gets.mono (by decide)).trans (books.mono (by decide))).trans (opens.mono (by decide))

theorem execute_becomes (world : World σ) :
    Becomes turnParts world.storage ((execute carry options bot incoming).run world).2.storage :=
  (ready_touches options bot incoming world.storage).trans
    ((ready_becomes carry options bot incoming world).mono (by decide))

end Turn

namespace History

structure Conditions.Calm (conditions : Conditions σ) : Prop where
  works : conditions.broken = []
  up : conditions.down = false
  sessions : conditions.staleSessions = 0
  contacts : conditions.staleContacts = 0

/-- What happens when nothing is asked of the store but by turns and authors, and it works. -/
def Event.Ordinary : Event σ → Prop
  | .turn _ _ _ _ => True
  | .saveBlock _ => True
  | .saveFlow _ => True
  | .change conditions => conditions.Calm
  | _ => False

/-- Which bot a sender writes to, and who it is. -/
def Event.visitor? : Event σ → Option (String × String)
  | .turn _ _ bot incoming => some (bot.id, incoming.senderId)
  | _ => none

/-- A world in which everything that is ordinary can happen. -/
structure Works (world : World σ) : Prop where
  hosts : world.storage.Hosts
  keeps : world.storage.KeepsBooks

/-- Only a change of the world turns the clock of its store back. -/
theorem happen_becomes (world : World σ) (event : Event σ) :
    (∃ parts, Storage.Becomes parts world.storage (happen world event).storage) ∨
      ∃ conditions, event = .change conditions := by
  cases event with
  | turn carry options bot incoming =>
    exact .inl ⟨_, Turn.execute_becomes carry options bot incoming world⟩
  | saveBlock block => exact .inl ⟨_, Touches.saveBlock block world.storage⟩
  | saveFlow flow => exact .inl ⟨_, Touches.saveFlow flow world.storage⟩
  | getOrCreate botId senderId => exact .inl ⟨_, Touches.getOrCreate botId senderId world.storage⟩
  | parkInBlock blockId index context session => exact .inl ⟨_, Touches.saveSession _ world.storage⟩
  | parkInFlow nodeId flowId context session => exact .inl ⟨_, Touches.saveSession _ world.storage⟩
  | forget session => exact .inl ⟨_, Touches.saveSession _ world.storage⟩
  | change conditions => exact .inr ⟨conditions, rfl⟩

theorem happen_issued (world : World σ) (event : Event σ) :
    world.storage.source.issued ≤ (happen world event).storage.source.issued := by
  rcases happen_becomes world event with ⟨_, becomes⟩ | ⟨conditions, rfl⟩
  · exact becomes.issued
  · exact Nat.le_refl _

theorem run_issued (start : World σ) (events : List (Event σ)) :
    start.storage.source.issued ≤ (run start events).storage.source.issued := by
  induction events generalizing start with
  | nil => exact Nat.le_refl _
  | cons event rest ih => exact Nat.le_trans (happen_issued start event) (ih _)

/-- What authors save and what changes leaves the books alone. -/
structure Aside (world reached : World σ) : Prop where
  works : Works reached
  ledger : reached.storage.store.ledger = world.storage.store.ledger
  calls : reached.calls = world.calls

theorem Works.saves {world : World σ} (works : Works world) {action : StoreM Unit} {part : Part}
    (touches : Touches [part] action) (content : part = .blocks ∨ part = .flows) :
    Aside world (ask action world) := by
  have becomes := touches world.storage
  have out (other : Part) (apart : other ≠ .blocks ∧ other ≠ .flows) : other ∉ [part] := by
    rintro same
    rcases content with rfl | rfl
    · exact apart.1 (List.mem_singleton.mp same)
    · exact apart.2 (List.mem_singleton.mp same)
  refine ⟨⟨works.hosts.after becomes ?_ ?_, works.keeps.after becomes ?_ ?_ ?_⟩,
    becomes.same.ledger ?_ ?_ ?_, rfl⟩
  all_goals exact out _ (by decide)

theorem Works.changes {world : World σ} (works : Works world) {conditions : Conditions σ}
    (calm : conditions.Calm) : Aside world (happen world (.change conditions)) := by
  obtain ⟨broken, down, sessions, contacts⟩ := calm
  refine ⟨⟨⟨sessions, works.hosts.apart, works.hosts.readable, works.hosts.spare⟩, ?_⟩, rfl, rfl⟩
  refine ⟨⟨⟨broken, down, sessions⟩, contacts⟩, ⟨?_, down, works.keeps.takes.fresh⟩⟩
  change .addEntry ∉ conditions.broken
  rw [broken]
  exact List.not_mem_nil

theorem Works.turns {world : World σ} (works : Works world) (carry : Carrier σ) (options : Options)
    (bot : Bot) (incoming : Turn.Incoming)
    (bound : (happen world (.turn carry options bot incoming)).storage.source.issued ≤ 2 ^ 64) :
    Works (happen world (.turn carry options bot incoming)) ∧
      ∃ receipt made, Turn.Keeps bot options incoming world
        (happen world (.turn carry options bot incoming)) receipt made := by
  obtain ⟨receipt, made, keeps⟩ :=
    Turn.execute_keeps carry options bot incoming works.hosts works.keeps bound
  have hosts := Turn.execute_hosted carry works.hosts
    (Turn.works_of_reliable works.keeps.reliable) bound
  exact ⟨⟨hosts, keeps.keeps⟩, receipt, made, keeps⟩

/-- An event is a turn that is kept in the books, or it leaves them alone. -/
inductive Recorded (world reached : World σ) : Event σ → Prop where
  | turn {carry : Carrier σ} {options : Options} {bot : Bot} {incoming : Turn.Incoming}
    {receipt : Receipt} {made : List Call}
    (keeps : Turn.Keeps bot options incoming world reached receipt made) :
    Recorded world reached (.turn carry options bot incoming)
  | aside {event : Event σ} (quiet : event.visitor? = none) (aside : Aside world reached) :
    Recorded world reached event

theorem Works.happen {world : World σ} (works : Works world) {event : Event σ}
    (ordinary : event.Ordinary) (bound : (happen world event).storage.source.issued ≤ 2 ^ 64) :
    Works (History.happen world event) ∧ Recorded world (History.happen world event) event := by
  cases event with
  | turn carry options bot incoming =>
    obtain ⟨works, receipt, made, keeps⟩ := works.turns carry options bot incoming bound
    exact ⟨works, .turn keeps⟩
  | saveBlock block =>
    have aside := works.saves (Touches.saveBlock block) (.inl rfl)
    exact ⟨aside.works, .aside rfl aside⟩
  | saveFlow flow =>
    have aside := works.saves (Touches.saveFlow flow) (.inr rfl)
    exact ⟨aside.works, .aside rfl aside⟩
  | change conditions =>
    have aside := works.changes ordinary
    exact ⟨aside.works, .aside rfl aside⟩
  | getOrCreate | parkInBlock | parkInFlow | forget => exact absurd ordinary id

/-- A world that works, and in which nobody has written to a bot. -/
structure Fresh (start : World σ) : Prop where
  reliable : start.storage.Reliable
  ledger : start.storage.store.ledger = {}
  sessions : start.storage.store.sessionRows = []
  calls : start.calls = []

theorem Fresh.works {start : World σ} (fresh : Fresh start) : Works start := by
  obtain ⟨reliable, ledger, sessions, _⟩ := fresh
  have entries : start.storage.store.entries = [] := by
    cases content : start.storage.store with
    | memory memory | sql sql =>
      rw [content] at ledger
      exact congrArg Ledger.entries ledger
  have apart : start.storage.store.SessionIdsApart := by
    cases content : start.storage.store with
    | memory memory => trivial
    | sql sql =>
      rw [content] at sessions
      change (sql.sessions.map (·.id)).Nodup
      rw [show sql.sessions = [] from sessions]
      exact List.nodup_nil
  refine ⟨⟨reliable.calm.current, apart, ?_, ?_⟩, ⟨reliable, ?_, reliable.calm.up, ?_⟩⟩
  · rw [sessions]
    exact fun row member => absurd member List.not_mem_nil
  · rw [sessions]
    exact fun _ _ _ row member => absurd member List.not_mem_nil
  · rw [reliable.calm.works]
    exact List.not_mem_nil
  · rw [entries]
    exact fun _ _ _ entry member => absurd member List.not_mem_nil

end History

end Parley
