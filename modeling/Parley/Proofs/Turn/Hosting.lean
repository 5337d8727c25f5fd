import Parley.Proofs.Storage.Saving
import Parley.Proofs.Turn.Level

/-!
Senders who are given sessions. While all stored sessions can be read and none has an id that is still
to be issued, every sender who writes finds a session or gets one, and turns keep it so.
-/

namespace Parley

open Storage (Part SameBut Becomes)

section

variable {session : Session} {storage reached : Storage} {answer : Except Failure Session}

theorem SavesSession.rows (saves : SavesSession session storage (answer, reached)) :
    ∀ row ∈ reached.store.sessionRows, row ∈ storage.store.sessionRows ∨
      ∃ stored : Session, row = stored.toRow ∧
        (stored.id = session.id ∨ ∃ old ∈ storage.store.sessionRows, stored.id = old.id) := by
  intro row member
  cases saves with
  | failed read =>
    rw [read.store_eq] at member
    exact .inl member
  | @memory memory reached content read =>
    rw [content]
    obtain ⟨stored, kept, rfl⟩ := List.mem_map.mp member
    rcases Table.mem_put kept with kept | rfl
    · exact .inl (List.mem_map_of_mem kept)
    · refine .inr ⟨_, rfl, ?_⟩
      cases found : memory.session? session.botId session.senderId with
      | none => exact .inl rfl
      | some old =>
        exact .inr ⟨old.toRow, List.mem_map_of_mem (List.mem_of_find?_eq_some found), rfl⟩
  | @sql sql written found saved reached content read either shown done =>
    rw [content]
    unfold Sql.saveSession at done
    split at done
    · cases done
    · cases found with
      | some target =>
        cases done
        rcases Table.mem_update member with kept | ⟨old, kept, rfl⟩
        · exact .inl kept
        · exact .inr ⟨{ session with id := old.id, botId := old.botId, senderId := old.senderId },
            rfl, .inr ⟨old, kept, rfl⟩⟩
      | none =>
        dsimp only at done
        split at done
        · cases done
        · cases done
          rcases List.mem_append.mp member with kept | new
          · exact .inl kept
          · exact .inr ⟨session, List.mem_singleton.mp new, .inl rfl⟩

theorem SavesSession.issued (saves : SavesSession session storage (answer, reached)) :
    storage.source.issued ≤ reached.source.issued := by
  cases saves with
  | failed read => exact read.becomes.issued
  | memory content read => exact read.becomes.issued
  | sql content read either shown done => exact read.becomes.issued

/-- Look-ups of sessions are up to date, all stored sessions can be read, each row has an id of its
own, and none has one that is still to be issued. -/
structure Storage.Hosts (storage : Storage) : Prop where
  current : storage.staleSessions = 0
  apart : storage.store.SessionIdsApart
  readable : ∀ row ∈ storage.store.sessionRows, ∃ session, row.toSession = .ok session
  spare : ∀ number, storage.source.issued ≤ number → number < 2 ^ 64 →
    ∀ row ∈ storage.store.sessionRows, row.id ≠ Source.idOf number

namespace Storage.Hosts

theorem after {parts : List Part} (hosts : storage.Hosts) (becomes : Becomes parts storage reached)
    (sessions : .sessions ∉ parts) (lookups : .sessionLookups ∉ parts) : reached.Hosts where
  current := (becomes.same.staleSessions lookups).trans hosts.current
  apart := becomes.same.apart sessions hosts.apart
  readable := by
    rw [becomes.same.sessionRows sessions]
    exact hosts.readable
  spare number later below := by
    rw [becomes.same.sessionRows sessions]
    exact hosts.spare number (Nat.le_trans becomes.issued later) below

theorem saves (hosts : storage.Hosts) (saves : SavesSession session storage (answer, reached))
    (known : ∀ number, reached.source.issued ≤ number → number < 2 ^ 64 →
      session.id ≠ Source.idOf number) : reached.Hosts where
  current := saves.current hosts.current
  apart := saves.apart hosts.apart
  readable row member := by
    rcases saves.rows row member with kept | ⟨stored, rfl, _⟩
    · exact hosts.readable row kept
    · exact ⟨stored, stored.toRow_toSession⟩
  spare number later below row member := by
    have earlier := Nat.le_trans saves.issued later
    rcases saves.rows row member with kept | ⟨stored, rfl, same | ⟨old, kept, same⟩⟩
    · exact hosts.spare number earlier below row kept
    · exact fun taken => known number later below (same.symm.trans taken)
    · exact fun taken => hosts.spare number earlier below old kept (same.symm.trans taken)

end Storage.Hosts

def Session.Seated (storage : Storage) (session : Session) : Prop :=
  ∃ row ∈ storage.store.sessionRows, row.id = session.id

theorem Session.Seated.of_found {botId senderId : String} {row : SessionRow}
    (found : storage.sessionRow? botId senderId = some row) (same : row.id = session.id) :
    session.Seated storage := ⟨row, List.mem_of_find?_eq_some found, same⟩

theorem Storage.Hosts.saves_seated (hosts : storage.Hosts) (seated : session.Seated storage)
    (saves : SavesSession session storage (answer, reached)) :
    reached.Hosts ∧ ∀ saved, answer = .ok saved → saved.Seated reached := by
  obtain ⟨row, member, same⟩ := seated
  refine ⟨hosts.saves saves fun number later below taken => ?_, ?_⟩
  · exact hosts.spare number (Nat.le_trans saves.issued later) below row member (same.trans taken)
  · rintro saved rfl
    exact .of_found (saves.row hosts.current (.inr hosts.apart)) rfl

end

namespace Turn

variable {botId senderId : String} {limit : Nat} {bot : Bot} {incoming : Incoming}
  {session : Session} {storage other reached : Storage} {options : Options} {text : String}

/-! ### Opening -/

def Works (storage : Storage) : Prop :=
  storage.refuses .getSession = false ∧ storage.refuses .saveSession = false

theorem getOrCreate_of_missing {reached : Storage}
    (missing : outcome (Storage.getSession botId senderId) storage = (.ok none, reached)) :
    outcome (Session.getOrCreate botId senderId) storage =
      outcome (Storage.saveSession { id := Source.idOf reached.source.issued, botId, senderId })
        { reached with source := ⟨reached.source.issued + 1, reached.source.micros + 1 + 1⟩ } := by
  rw [Session.getOrCreate, outcome_bind_of_ok missing]
  rfl

theorem getOrCreate_of_absent (current : storage.staleSessions = 0) (works : Works storage)
    (absent : storage.sessionRow? botId senderId = none) (apart : storage.store.SessionIdsApart)
    (free : storage.source.issued < limit →
      Source.idOf storage.source.issued ∉ storage.store.sessionIds)
    (bound : (outcome (Session.getOrCreate botId senderId) storage).2.source.issued ≤ limit) :
    ∃ session reached, outcome (Session.getOrCreate botId senderId) storage = (.ok session, reached) ∧
      (session.botId = botId ∧ session.senderId = senderId) ∧ reached.Finds botId senderId := by
  have missing := Storage.outcome_getSession current botId senderId
  rw [works.1, absent] at missing
  rw [getOrCreate_of_missing missing] at bound ⊢
  let new : Session := { id := Source.idOf storage.source.issued, botId, senderId }
  let drawn : Storage :=
    { storage with source := ⟨storage.source.issued + 1, storage.source.micros + 1 + 1⟩ }
  have short : storage.store.overflows new = false := by cases storage.store <;> rfl
  have saving := (Touches.saveSession new drawn).issued
  have admits : drawn.store.Admits new := fun _ => free (Nat.le_trans saving bound)
  have current : drawn.staleSessions = 0 := current
  obtain ⟨saved, reached, run, saves⟩ :=
    Storage.saveSession_of_fits current works.2 short admits apart
  refine ⟨saved, reached, run, ?_, saves.finds⟩
  rw [saves.saved_eq]
  exact ⟨rfl, rfl⟩

/-- How a turn opens once the message is received. -/
def openReceived (options : Options) (text : String) (session : Session) :
    StoreM (Session × Start) := do
  let session ← heed options text session
  return (session, ← start options session text session.context)

theorem openReceived_touches (options : Options) (text : String) (session : Session) :
    Touches [.blocks, .sessions, .source, .sessionLookups] (openReceived options text session) := by
  apply Within.bind ((Touches.heed options text session).mono (by decide))
  intro heeded
  apply Within.bind ((Touches.start options heeded text heeded.context).mono (by decide))
  exact fun _ => Within.pure _

theorem receive_of_found (run : outcome (Session.getOrCreate bot.id incoming.senderId) storage =
      (.ok session, other)) :
    outcome (receive bot incoming) storage = (.ok session, ((keepBooks bot incoming).run other).2) := by
  rw [outcome_receive, run]

theorem ready_of_failed {failure : Failure} (run : outcome (receive bot incoming) storage =
      (.error failure, other)) (options : Options) :
    outcome (ready options bot incoming) storage = (.error failure, other) :=
  outcome_bind_of_error run _

theorem ready_of_received (run : outcome (receive bot incoming) storage = (.ok session, other))
    (options : Options) :
    outcome (ready options bot incoming) storage =
      outcome (openReceived options incoming.text session) other :=
  outcome_bind_of_ok run _

theorem getOrCreate_issued (options : Options) (bot : Bot) (incoming : Incoming) (storage : Storage) :
    (outcome (Session.getOrCreate bot.id incoming.senderId) storage).2.source.issued ≤
      (outcome (ready options bot incoming) storage).2.source.issued := by
  have received : (outcome (Session.getOrCreate bot.id incoming.senderId) storage).2.source.issued ≤
      (outcome (receive bot incoming) storage).2.source.issued := by
    rw [outcome_receive]
    rcases outcome (Session.getOrCreate bot.id incoming.senderId) storage with ⟨answer, reached⟩
    cases answer with
    | ok session => exact (keepBooks_becomes bot incoming reached).issued
    | error failure => exact Nat.le_refl _
  exact Nat.le_trans received (Touches.issued_bind _ (openReceived_touches options incoming.text) _ storage)

/-! ### Turns -/

theorem getOrCreate_hosted (hosts : storage.Hosts) (works : Works storage)
    (bound : (outcome (Session.getOrCreate botId senderId) storage).2.source.issued ≤ 2 ^ 64) :
    ∃ session reached, outcome (Session.getOrCreate botId senderId) storage = (.ok session, reached) ∧
      (session.botId = botId ∧ session.senderId = senderId) ∧ reached.Hosts ∧
      session.Seated reached := by
  cases stored : storage.sessionRow? botId senderId with
  | some row =>
    obtain ⟨session, valid⟩ := hosts.readable row (List.mem_of_find?_eq_some stored)
    have found := getOrCreate_of_stored hosts.current stored valid
    rw [works.1] at found
    exact ⟨session, storage, found, Storage.sessionRow?_owner stored valid, hosts,
      .of_found stored (SessionRow.toSession_same valid).1.symm⟩
  | none =>
    have free (below : storage.source.issued < 2 ^ 64) :
        Source.idOf storage.source.issued ∉ storage.store.sessionIds := by
      have spare := hosts.spare storage.source.issued (Nat.le_refl _) below
      intro taken
      cases content : storage.store with
      | memory memory =>
        rw [content] at taken
        cases taken
      | sql sql =>
        rw [content] at taken spare
        obtain ⟨row, member, same⟩ := List.mem_map.mp taken
        exact spare row member same
    obtain ⟨session, reached, run, owner, finds⟩ :=
      getOrCreate_of_absent hosts.current works stored hosts.apart free bound
    have missing := Storage.outcome_getSession hosts.current botId senderId
    rw [works.1, stored] at missing
    rw [run] at bound
    have created := run
    rw [getOrCreate_of_missing missing] at created
    have saves := Storage.saveSession_saves
      { id := Source.idOf storage.source.issued, botId, senderId }
      { storage with source := ⟨storage.source.issued + 1, storage.source.micros + 1 + 1⟩ }
    rw [created] at saves
    have drawn : Storage.Hosts { storage with
        source := ⟨storage.source.issued + 1, storage.source.micros + 1 + 1⟩ } :=
      hosts.after (Becomes.draw storage (Source.newSession_issues botId senderId storage.source))
        (by decide) (by decide)
    have hosts' := drawn.saves saves fun number later below same => by
      have earlier : storage.source.issued < number := Nat.lt_of_lt_of_le saves.issued later
      exact Nat.ne_of_lt earlier (Source.idOf_injective (Nat.lt_trans earlier below) below same)
    obtain ⟨row, found⟩ := finds.stored
    exact ⟨session, reached, run, owner, hosts',
      .of_found (saves.row drawn.current (.inr drawn.apart)) rfl⟩

theorem heed_hosted (hosts : storage.Hosts) (seated : session.Seated storage)
    {answer : Except Failure Session}
    (run : outcome (heed options text session) storage = (answer, reached)) :
    reached.Hosts ∧ ∀ heeded, answer = .ok heeded → heeded.Seated reached := by
  rw [heed] at run
  split at run
  · have saves := Storage.saveSession_saves session.reset storage
    rw [show Storage.saveSession session.reset = session.forget from rfl, run] at saves
    have seated : session.reset.Seated storage := seated
    exact hosts.saves_seated seated saves
  · cases run
    exact ⟨hosts, fun _ same => by cases same; exact seated⟩

theorem openReceived_hosted (hosts : storage.Hosts) (seated : session.Seated storage)
    {answer : Except Failure (Session × Start)}
    (run : outcome (openReceived options text session) storage = (answer, reached)) :
    reached.Hosts ∧ ∀ begun, answer = .ok begun → begun.1.Seated reached := by
  rcases heeding : outcome (heed options text session) storage with ⟨heeded | heeded, opened⟩
  · rw [openReceived, outcome_bind_of_error heeding] at run
    cases run
    exact ⟨(heed_hosted hosts seated heeding).1, fun _ same => by cases same⟩
  · obtain ⟨hosts, seated⟩ := heed_hosted hosts seated heeding
    rw [openReceived, outcome_bind_of_ok heeding] at run
    rcases starting : outcome (start options heeded text heeded.context) opened with
      ⟨begun | begun, last⟩
    all_goals
      have started := (Touches.start options heeded text heeded.context).apply starting
      have hosts := hosts.after started (by decide) (by decide)
    · rw [outcome_bind_of_error starting] at run
      cases run
      exact ⟨hosts, fun _ same => by cases same⟩
    · rw [outcome_bind_of_ok starting] at run
      cases run
      obtain ⟨row, member, same⟩ := seated heeded rfl
      rw [← started.same.sessionRows (by decide)] at member
      exact ⟨hosts, fun _ answered => by cases answered; exact ⟨row, member, same⟩⟩

theorem settle_hosted (hosts : storage.Hosts) (seated : session.Seated storage) (begun : Start)
    (plan : Plan) (sent : Nat) : (outcome (settle session begun plan sent) storage).2.Hosts := by
  have parked : (outcome (park session begun plan) storage).2.Hosts := by
    rcases park_cases session begun plan with ⟨failure, _, thrown⟩ | ⟨parked, _, saved⟩
    · rw [thrown]
      exact hosts
    · rw [saved]
      have same : (stopped begun.mode parked begun.context session).id = session.id := by
        rcases parked with _ | ⟨block, index⟩ | ⟨flow, node⟩
        · cases begun.mode <;> rfl
        · rfl
        · rfl
      obtain ⟨row, member, id⟩ := seated
      exact (hosts.saves_seated ⟨row, member, id.trans same.symm⟩
        (Storage.saveSession_saves _ storage)).1
  rw [settle, outcome_bind]
  rcases run : outcome (park session begun plan) storage with ⟨answer, reached⟩
  rw [run] at parked
  cases answer <;> exact parked

theorem ready_hosted (hosts : storage.Hosts) (works : Works storage)
    {answer : Except Failure (Session × Start)}
    (run : outcome (ready options bot incoming) storage = (answer, reached))
    (bound : reached.source.issued ≤ 2 ^ 64) :
    reached.Hosts ∧ ∀ begun, answer = .ok begun → begun.1.Seated reached := by
  have issued := getOrCreate_issued options bot incoming storage
  rw [run] at issued
  obtain ⟨session, found, finding, _, hosts, row, member, same⟩ :=
    getOrCreate_hosted hosts works (Nat.le_trans issued bound)
  have books := keepBooks_becomes bot incoming found
  have received := receive_of_found finding
  rw [ready_of_received received options] at run
  rw [← books.same.sessionRows (by decide)] at member
  exact openReceived_hosted (hosts.after books (by decide) (by decide)) ⟨row, member, same⟩ run

variable {σ : Type}

theorem endedIn_hosted (carry : Carrier σ) (world : World σ)
    {settled : Except Failure TurnResult × Storage} (hosts : settled.2.Hosts) :
    (endedIn carry bot options incoming world settled).2.storage.Hosts :=
  hosts.after (endedIn_becomes carry bot settled) (by decide) (by decide)

/-- After a turn every sender can still be given a session. -/
theorem execute_hosted (carry : Carrier σ) {world : World σ} (hosts : world.storage.Hosts)
    (works : Works world.storage)
    (bound : ((execute carry options bot incoming).run world).2.storage.source.issued ≤ 2 ^ 64) :
    ((execute carry options bot incoming).run world).2.storage.Hosts := by
  have issued := (ready_becomes carry options bot incoming world).issued
  rcases opened : outcome (ready options bot incoming) world.storage with ⟨answer, reached⟩
  rw [opened] at issued
  obtain ⟨hosts, seated⟩ := ready_hosted hosts works opened (Nat.le_trans issued bound)
  cases answer with
  | error failure =>
    rw [execute_of_unready carry bot opened]
    exact endedIn_hosted carry world hosts
  | ok begun =>
    obtain ⟨session, begun⟩ := begun
    obtain ⟨row, member, same⟩ := seated _ rfl
    rw [execute_of_ready carry bot opened]
    have performed := logged_becomes (world.gateway.showAll carry bot session.senderId
      ((planFrom options reached begun).effects.flatMap (·.shown))).1 reached
    rw [← performed.same.sessionRows (by decide)] at member
    exact endedIn_hosted carry _
      (settle_hosted (hosts.after performed (by decide) (by decide)) ⟨row, member, same⟩ begun _ _)

end Turn

end Parley
