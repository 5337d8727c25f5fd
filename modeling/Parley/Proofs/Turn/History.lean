import Parley.Proofs.Turn.Showing

/-!
Histories: turns of any senders, content that is saved, requests about sessions, and a world that
changes in between. No history brings a session out of order.
-/

namespace Parley

open Storage (Evolves)

variable {σ : Type}

namespace Turn

theorem execute_evolves (carry : Carrier σ) (options : Options) (bot : Bot) (incoming : Incoming)
    (world : World σ) :
    Evolves world.storage ((execute carry options bot incoming).run world).2.storage := by
  refine IsTrans.trans _ _ _ (ready_evolves options bot incoming world.storage) ?_
  refine execute_related carry (fun _ _ logged => Evolves.of_becomes logged (by decide)) ?_
  intro session begun reached _ sent
  exact settle_evolves session begun _ sent

end Turn

namespace History

/-- What surrounds the records: how the gateway and the store work at present. -/
structure Conditions (σ : Type) where
  gateway : Gateway σ
  broken : List Request := []
  down : Bool := false
  staleSessions : Nat := 0
  staleContacts : Nat := 0
  passed : Int := 0

inductive Event (σ : Type) where
  | turn (carry : Carrier σ) (options : Options) (bot : Bot) (incoming : Turn.Incoming)
  | saveBlock (block : Block)
  | saveFlow (flow : Flow)
  | getOrCreate (botId senderId : String)
  | parkInBlock (blockId : Option String) (index : Int) (context : Context) (session : Session)
  | parkInFlow (nodeId flowId : Option String) (context : Context) (session : Session)
  | forget (session : Session)
  | change (conditions : Conditions σ)

def ask {α : Type} (action : StoreM α) (world : World σ) : World σ :=
  { world with storage := (outcome action world.storage).2 }

def happen (world : World σ) : Event σ → World σ
  | .turn carry options bot incoming => ((Turn.execute carry options bot incoming).run world).2
  | .saveBlock block => ask (Storage.saveBlock block) world
  | .saveFlow flow => ask (Storage.saveFlow flow) world
  | .getOrCreate botId senderId => ask (Session.getOrCreate botId senderId) world
  | .parkInBlock blockId index context session =>
    ask (session.parkInBlock blockId index context) world
  | .parkInFlow nodeId flowId context session =>
    ask (session.parkInFlow nodeId flowId context) world
  | .forget session => ask session.forget world
  | .change conditions =>
    { world with
      gateway := conditions.gateway
      storage := { world.storage with
        broken := conditions.broken
        down := conditions.down
        staleSessions := conditions.staleSessions
        staleContacts := conditions.staleContacts
        source := world.storage.source.advance conditions.passed } }

def run (start : World σ) (events : List (Event σ)) : World σ := events.foldl happen start

theorem happen_evolves (world : World σ) (event : Event σ) :
    Evolves world.storage (happen world event).storage := by
  cases event with
  | turn carry options bot incoming => exact Turn.execute_evolves carry options bot incoming world
  | saveBlock block => exact Evolves.of_becomes (Touches.saveBlock block _) (by decide)
  | saveFlow flow => exact Evolves.of_becomes (Touches.saveFlow flow _) (by decide)
  | getOrCreate botId senderId => exact (Session.getOrCreate_gets botId senderId _).evolves
  | parkInBlock blockId index context session =>
    exact Within.saveSession (session.toRow_placed_of_atBlock blockId index context) _
  | parkInFlow nodeId flowId context session =>
    exact Within.saveSession (session.toRow_placed_of_atNode nodeId flowId context) _
  | forget session => exact Within.saveSession session.toRow_placed_of_reset _
  | change conditions => exact Evolves.of_sessionRows_eq rfl

theorem run_evolves (start : World σ) (events : List (Event σ)) :
    Evolves start.storage (run start events).storage := by
  induction events generalizing start with
  | nil => exact Std.Refl.refl start.storage
  | cons event rest ih => exact IsTrans.trans _ _ _ (happen_evolves start event) (ih _)

/-- In every history that starts without sessions, each session is parked in one place at most and
names a card or a flow only where that counts, no sender has two sessions with a bot, and a session
keeps its id for good. -/
theorem sessions_stay_in_order (start : World σ) (empty : start.storage.store.sessionRows = [])
    (earlier later : List (Event σ)) :
    let reached := (run start earlier).storage
    let final := (run start (earlier ++ later)).storage
    (∀ row ∈ final.store.sessionRows, row.Placed) ∧
      (final.store.sessionRows.map (·.owner)).Nodup ∧
      ∀ botId senderId row, reached.sessionRow? botId senderId = some row →
        ∃ row', final.sessionRow? botId senderId = some row' ∧ row'.id = row.id := by
  intro reached final
  have tidy : start.storage.store.Tidy := by
    refine ⟨?_, ?_⟩
    · rw [empty]
      exact fun row member => absurd member List.not_mem_nil
    · rw [empty]
      exact List.nodup_nil
  have ordered := (run_evolves start (earlier ++ later)).tidy tidy
  have continued : Evolves reached final := by
    have rest := run_evolves (run start earlier) later
    rwa [run, run, ← List.foldl_append] at rest
  exact ⟨ordered.placed, ordered.owners, fun botId senderId row found => continued.finds found⟩

def untouched : World Unit where
  storage := { store := .memory {}, source := { micros := 0 } }
  gateway := { name := "test", medium := () }

def reparked : World Unit :=
  run untouched
    ([.getOrCreate "bot" "ada"] ++
      [.parkInBlock (some "tour") 2 [] { id := "1", botId := "bot", senderId := "ada" },
        .parkInFlow (some "ask") (some "poll") []
          { id := "2", botId := "bot", senderId := "ada" }])

theorem reparked_session_stays_in_order :
    untouched.storage.store.sessionRows = [] ∧
      (∀ row ∈ reparked.storage.store.sessionRows, row.Placed) ∧
      (reparked.storage.store.sessionRows.map (·.owner)).Nodup := by
  have empty : untouched.storage.store.sessionRows = [] := rfl
  obtain ⟨placed, owners, _⟩ := sessions_stay_in_order untouched empty
    [.getOrCreate "bot" "ada"]
    [.parkInBlock (some "tour") 2 [] { id := "1", botId := "bot", senderId := "ada" },
      .parkInFlow (some "ask") (some "poll") [] { id := "2", botId := "bot", senderId := "ada" }]
  exact ⟨empty, placed, owners⟩

end History

end Parley
