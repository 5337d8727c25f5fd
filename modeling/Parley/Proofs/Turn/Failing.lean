import Parley.Proofs.Turn.Phases

/-!
Turns that fail. Wherever a turn fails, the session of the sender stays as it was, and the sender is
told once, at the end.
-/

namespace Parley.Turn

variable {σ : Type}

theorem attempt_failed {carry : Carrier σ} {options : Options} {bot : Bot} {incoming : Incoming}
    {before attempted : World σ} {failure : Failure}
    (calm : interrupts options incoming.text = false) (fresh : before.storage.staleSessions = 0)
    (run : outcome (attempt carry options bot incoming) before = (.error failure, attempted)) :
    before.storage.KeepsSession bot.id incoming.senderId attempted.storage ∧
      before.calls <+: attempted.calls := by
  have opened := ready_keeps calm bot fresh
  rcases ran : outcome (ready options bot incoming) before.storage with ⟨answer, reached⟩
  rw [ran] at opened
  cases answer with
  | error reason =>
    rw [attempt_of_unready carry options bot incoming ran] at run
    cases run
    exact ⟨opened, List.prefix_refl _⟩
  | ok start =>
    obtain ⟨session, start⟩ := start
    rw [attempt_of_ready carry options bot incoming ran] at run
    dsimp only at run
    obtain ⟨made, _, performed⟩ := performAll_performs carry bot session.senderId options
      (planFrom options reached start).effects { before with storage := reached }
    have kept := opened.after (performed.becomes.same.sessionRow? (by decide) _ _)
    rcases settled : outcome (settle session start (planFrom options reached start) _) _ with
      ⟨answer, final⟩
    rw [settled] at run
    cases run
    have rows := congrArg Store.sessionRows (settle_failed settled)
    refine ⟨kept.after ?_, ?_⟩
    · rw [Storage.sessionRow?, Storage.sessionRow?, rows]
    · rw [performed.calls]
      exact List.prefix_append _ _

/-- A turn that fails without an interrupt leaves the session of its sender as it was, or new and
idle; says why; and tells the sender last, and once. -/
theorem failed_turn_is_atomic {carry : Carrier σ} {options : Options} {bot : Bot}
    {incoming : Incoming} {before after : World σ} {result : TurnResult}
    (calm : interrupts options incoming.text = false) (fresh : before.storage.staleSessions = 0)
    (run : (execute carry options bot incoming).run before = (result, after))
    (failed : result.success = false) :
    before.storage.KeepsSession bot.id incoming.senderId after.storage ∧
    ∃ failure attempted,
      outcome (attempt carry options bot incoming) before = (.error failure, attempted) ∧
      result = { success := false, error := some failure.message, handledBy := "none"
                 messagesSent := 0 } ∧
      before.calls <+: attempted.calls ∧
      Replies bot incoming.senderId
        (if failure.isConfiguration then options.notConfigured else options.apology)
        attempted after := by
  rw [execute_run] at run
  rcases attempted : outcome (attempt carry options bot incoming) before with ⟨answer, reached⟩
  rw [attempted] at run
  cases answer with
  | ok answer =>
    obtain ⟨_, _, _, _, _, _, _, won, _⟩ := attempt_ok carry options bot incoming attempted
    cases run
    rw [won] at failed
    cases failed
  | error failure =>
    cases run
    obtain ⟨kept, calls⟩ := attempt_failed calm fresh attempted
    have replied := reply_replies carry bot incoming.senderId (answerTo options failure) reached
    exact ⟨kept.after (replied.becomes.same.sessionRow? (by decide) _ _), failure, reached, rfl, rfl,
      calls, replied⟩

def strayed : World Unit where
  storage :=
    { store := .memory
        { sessions := [{ id := "1", botId := "bot", senderId := "ada", currentBlockId := some "tour"
                         currentCardIndex := 3, context := [("name", "Ada")] }]
          blocks := [{ id := "tour", botId := "bot", createdAt := ⟨0, none⟩ }] }
      source := { micros := 0 } }
  gateway := { name := "test", medium := () }

def greeting : Incoming where
  senderId := "ada"
  text := "hello"

def strayedTurn : TurnResult × World Unit :=
  (execute (fun _ _ _ medium => { medium }) {} { id := "bot" } greeting).run strayed

theorem strayed_turn_keeps_session :
    strayedTurn.1.success = false ∧
      strayed.storage.KeepsSession "bot" "ada" strayedTurn.2.storage := by
  have calm : interrupts {} greeting.text = false := by decide
  have run : strayedTurn = (strayedTurn.1, strayedTurn.2) := (Prod.eta strayedTurn).symm
  have failed : strayedTurn.1.success = false := by decide
  obtain ⟨kept, _⟩ := failed_turn_is_atomic calm rfl run failed
  exact ⟨failed, kept⟩

end Parley.Turn
