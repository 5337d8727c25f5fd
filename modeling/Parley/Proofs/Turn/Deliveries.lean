import Parley.Proofs.Storage.Unseen
import Parley.Proofs.Turn.Phases

/-!
Two runs of one turn, whose deliveries turn out differently. They ask for the same, and leave the same
but for the message log, which keeps what was delivered.
-/

namespace Parley.Turn

open Storage (Part logParts SameBut Becomes)

variable {σ τ : Type}

/-! ### The log of an opened turn -/

theorem keepBooks_adds {storage : Storage} (takes : storage.TakesEntries) (bot : Bot)
    (incoming : Incoming) (bound : ((keepBooks bot incoming).run storage).2.source.issued ≤ 2 ^ 64) :
    ((keepBooks bot incoming).run storage).2.TakesEntries ∧
      ∃ entry : LogEntry, entry.direction = .incoming ∧
        ((keepBooks bot incoming).run storage).2.store.entries = storage.store.entries ++ [entry] := by
  rw [keepBooks, StateT.run_bind] at bound ⊢
  have tracked := Bookkeeping.track_becomes bot.id incoming.senderId incoming.profile storage
  rcases run : (Bookkeeping.track bot.id incoming.senderId incoming.profile).run storage with
    ⟨visit, middle⟩
  rw [run] at bound tracked
  have issues := Bookkeeping.log_issues bot.id incoming.senderId incoming.text .incoming "text"
    ((visit.map (·.firstToday)).getD false) middle
  obtain ⟨entry, records, added, takes⟩ := Bookkeeping.log_adds
    (takes.after tracked (by decide)) (Nat.lt_of_lt_of_le issues bound) bot.id incoming.senderId
    incoming.text .incoming "text" ((visit.map (·.firstToday)).getD false)
  refine ⟨takes, entry, records.direction, ?_⟩
  exact added.trans (congrArg (· ++ [entry]) (tracked.same.entries (by decide)))

theorem ready_logs {options : Options} {bot : Bot} {incoming : Incoming} {storage reached : Storage}
    {session : Session} {start : Start} (takes : storage.TakesEntries)
    (run : outcome (ready options bot incoming) storage = (.ok (session, start), reached))
    (bound : reached.source.issued ≤ 2 ^ 64) :
    reached.TakesEntries ∧
      ∃ entry : LogEntry, entry.direction = .incoming ∧
        reached.store.entries = storage.store.entries ++ [entry] := by
  obtain ⟨received, middle, opened, receiving, heeding, starting⟩ := ready_ok run
  obtain ⟨found, getting, rfl⟩ := receive_ok receiving
  have got := (Touches.getOrCreate bot.id incoming.senderId).apply getting
  have heeded := (Touches.heed options incoming.text _).apply heeding
  have started := (Touches.start options _ incoming.text _).apply starting
  have later := (heeded.mono (by decide)).trans (started.mono
    (by decide : [Part.blocks, .source] ⊆ [.sessions, .blocks, .source, .sessionLookups]))
  obtain ⟨takes, entry, direction, added⟩ := keepBooks_adds (takes.after got (by decide)) bot
    incoming (Nat.le_trans later.issued bound)
  refine ⟨takes.after later (by decide), entry, direction, ?_⟩
  rw [later.same.entries (by decide), added, got.same.entries (by decide)]

/-! ### Settling without looking at the log -/

theorem park_respects (session : Session) (start : Start) (plan : Plan) :
    Respects (SameBut logParts) (park session start plan) := by
  rcases park_cases session start plan with ⟨failure, _, thrown⟩ | ⟨parked, _, saves⟩
  · rw [thrown]
    exact Respects.throw failure
  · rw [saves]
    exact Respects.saveSession _ (by decide) (by decide) (by decide)

/-- A result without the number of messages that arrived. -/
def uncounted (result : TurnResult) : TurnResult := { result with messagesSent := 0 }

theorem settle_agrees {session : Session} {start : Start} {plan : Plan} {sent sent' : Nat}
    {storage other : Storage} (same : SameBut logParts storage other) :
    (outcome (settle session start plan sent) storage).1.map uncounted =
        (outcome (settle session start plan sent') other).1.map uncounted ∧
      SameBut logParts (outcome (settle session start plan sent) storage).2
        (outcome (settle session start plan sent') other).2 := by
  obtain ⟨answers, reached⟩ := park_respects session start plan storage other same
  rw [settle, settle, outcome_bind, outcome_bind]
  rcases parking : outcome (park session start plan) storage with ⟨answer, middle⟩
  rcases parking' : outcome (park session start plan) other with ⟨answer', middle'⟩
  rw [parking, parking'] at answers reached
  cases answers
  cases answer with
  | error failure => exact ⟨rfl, reached⟩
  | ok saved => exact ⟨rfl, reached⟩

/-! ### Two runs -/

/-- What two runs of a turn have in common. -/
structure SameDialogue (run : TurnResult × World σ) (other : TurnResult × World τ) : Prop where
  calls : run.2.calls.map (·.request) = other.2.calls.map (·.request)
  sleeps : run.2.sleeps = other.2.sleeps
  success : run.1.success = other.1.success
  error : run.1.error = other.1.error
  handledBy : run.1.handledBy = other.1.handledBy
  stored : SameBut logParts run.2.storage other.2.storage

/-- A result and a log that say of each call whether it delivered a message. -/
structure CountsDeliveries (storage : Storage) (run : TurnResult × World σ) : Prop where
  sent : run.1.messagesSent = run.2.calls.countP (·.delivers)
  logged : storage.TakesEntries → run.2.storage.source.issued ≤ 2 ^ 64 →
    ∃ received added, run.2.storage.store.entries = storage.store.entries ++ received :: added ∧
      received.direction = .incoming ∧
      List.Forall₂ LogEntry.IsFor (run.2.calls.filter (·.delivers)) added

theorem execute_counts (carry : Carrier σ) (options : Options) (bot : Bot) (incoming : Incoming)
    (storage : Storage) (gateway : Gateway σ)
    (won : ((execute carry options bot incoming).run { storage, gateway }).1.success = true) :
    CountsDeliveries storage ((execute carry options bot incoming).run { storage, gateway }) := by
  rw [execute_run] at won ⊢
  rcases attempted : outcome (attempt carry options bot incoming) { storage, gateway } with
    ⟨answer, after⟩
  rw [attempted] at won
  cases answer with
  | error failure => cases won
  | ok result =>
    obtain ⟨session, start, reached, opened, saved, final, parked, rfl, rfl⟩ :=
      attempt_ok carry options bot incoming attempted
    obtain ⟨made, sent, performed⟩ := performAll_performs carry bot session.senderId options
      (planFrom options reached start).effects { storage := reached, gateway }
    have parking := (park_touches session start _).apply parked
    have calls := performed.calls
    rw [List.nil_append] at calls
    constructor
    · dsimp only
      rw [calls, sent]
    · intro takes bound
      obtain ⟨takes, received, incoming, entered⟩ := ready_logs takes opened
        (Nat.le_trans performed.becomes.issued (Nat.le_trans parking.issued bound))
      obtain ⟨_, added, entries, logged⟩ := performed.entries takes
        (Nat.le_trans parking.issued bound)
      refine ⟨received, added, ?_, incoming, ?_⟩
      · dsimp only
        rw [parking.same.entries (by decide), entries, entered, List.append_assoc]
        rfl
      · dsimp only
        rw [calls]
        exact logged

/-- Two attempts at a turn ask for the same, and end alike but for what the log keeps. -/
theorem attempt_agrees (carry : Carrier σ) (carry' : Carrier τ) (options : Options) (bot : Bot)
    (incoming : Incoming) (storage : Storage) (gateway : Gateway σ) (gateway' : Gateway τ) :
    let run := outcome (attempt carry options bot incoming) { storage, gateway }
    let other := outcome (attempt carry' options bot incoming) { storage, gateway := gateway' }
    run.1.map uncounted = other.1.map uncounted ∧
      SameBut logParts run.2.storage other.2.storage ∧
      run.2.calls.map (·.request) = other.2.calls.map (·.request) ∧
      run.2.sleeps = other.2.sleeps := by
  intro run other
  rcases opened : outcome (ready options bot incoming) storage with ⟨answer, reached⟩
  cases answer with
  | error failure =>
    have ran : run = _ := attempt_of_unready carry options bot incoming opened
    have ran' : other = _ := attempt_of_unready carry' options bot incoming opened
    rw [ran, ran']
    exact ⟨rfl, rfl, rfl, rfl⟩
  | ok begun =>
    obtain ⟨session, start⟩ := begun
    have ran : run = _ := attempt_of_ready carry options bot incoming opened
    have ran' : other = _ := attempt_of_ready carry' options bot incoming opened
    rw [ran, ran']
    obtain ⟨made, _, performed⟩ := performAll_performs carry bot session.senderId options
      (planFrom options reached start).effects { storage := reached, gateway }
    obtain ⟨made', _, performed'⟩ := performAll_performs carry' bot session.senderId options
      (planFrom options reached start).effects { storage := reached, gateway := gateway' }
    obtain ⟨answers, stored⟩ := settle_agrees
      (performed.becomes.same.symm.trans performed'.becomes.same)
    refine ⟨answers, stored, ?_, performed.sleeps.trans performed'.sleeps.symm⟩
    dsimp only
    rw [performed.calls, performed'.calls, List.map_append, List.map_append, performed.requests,
      performed'.requests]

theorem execute_agrees (carry : Carrier σ) (carry' : Carrier τ) (options : Options) (bot : Bot)
    (incoming : Incoming) (storage : Storage) (gateway : Gateway σ) (gateway' : Gateway τ) :
    SameDialogue ((execute carry options bot incoming).run { storage, gateway })
      ((execute carry' options bot incoming).run { storage, gateway := gateway' }) := by
  obtain ⟨answers, stored, calls, sleeps⟩ :=
    attempt_agrees carry carry' options bot incoming storage gateway gateway'
  rw [execute_run, execute_run]
  rcases run : outcome (attempt carry options bot incoming) { storage, gateway } with
    ⟨answer, reached⟩
  rcases run' : outcome (attempt carry' options bot incoming) { storage, gateway := gateway' } with
    ⟨answer', reached'⟩
  rw [run, run'] at answers stored calls sleeps
  -- either both attempts fail, for the same reason, or both succeed
  cases answer <;> cases answer' <;>
    simp only [Except.map, Except.ok.injEq, Except.error.injEq, reduceCtorEq] at answers
  · rename_i failure failure'
    subst answers
    have replied := reply_replies carry bot incoming.senderId (answerTo options failure) reached
    have replied' := reply_replies carry' bot incoming.senderId (answerTo options failure) reached'
    refine ⟨?_, ?_, rfl, rfl, rfl, ?_⟩
    · exact replied.requests.trans ((congrArg (· ++ _) calls).trans replied'.requests.symm)
    · exact replied.sleeps.trans (sleeps.trans replied'.sleeps.symm)
    · exact replied.becomes.same.symm.trans (stored.trans replied'.becomes.same)
  · rename_i result result'
    have success := congrArg TurnResult.success answers
    have error := congrArg TurnResult.error answers
    have handledBy := congrArg TurnResult.handledBy answers
    exact ⟨calls, sleeps, success, error, handledBy, stored⟩

/-- However deliveries turn out, a turn asks the gateway for the same, pauses the same, ends the same
and leaves the same but for what the log keeps; and when it succeeds, what was delivered is counted
and logged. -/
theorem deliveries_never_steer (carry : Carrier σ) (carry' : Carrier τ) (options : Options)
    (bot : Bot) (incoming : Incoming) (storage : Storage) (gateway : Gateway σ)
    (gateway' : Gateway τ) :
    let run := (execute carry options bot incoming).run { storage, gateway }
    let other := (execute carry' options bot incoming).run { storage, gateway := gateway' }
    SameDialogue run other ∧ (run.1.success = true → CountsDeliveries storage run) := by
  intro run other
  exact ⟨execute_agrees carry carry' options bot incoming storage gateway gateway',
    execute_counts carry options bot incoming storage gateway⟩

end Parley.Turn
