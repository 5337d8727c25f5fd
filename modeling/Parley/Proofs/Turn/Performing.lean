import Mathlib.Data.List.Forall2
import Parley.Proofs.Storage.Entries
import Parley.Turn.Execute

/-!
What performing a plan does. The calls and pauses that it makes are those that are planned, whether
or not a message is delivered; what is delivered is counted and logged.
-/

namespace Parley

open Storage (Part logParts Becomes)

variable {σ : Type}

def Call.request (call : Call) : Bot × String × Outbound :=
  (call.bot, call.recipientId, call.outbound)

def Outbound.isTyping : Outbound → Bool
  | .typing _ => true
  | _ => false

def Call.delivers (call : Call) : Bool := call.failure.isNone && !call.outbound.isTyping

def LogEntry.IsFor (call : Call) (entry : LogEntry) : Prop :=
  ∃ message, call.outbound = .message message ∧
    entry.Records call.bot.id call.recipientId message.logText .outgoing message.logType

def Effect.shown : Effect → List Outbound
  | .send message => [.message message]
  | .wait pause => if pause.showTyping then [.typing true, .typing false] else []

def Effect.naps (options : Options) : Effect → List Nap
  | .send _ => []
  | .wait pause => [Turn.napFor options pause]

/-- Between two worlds some things were shown to a recipient, some pauses made, and nothing else was
done but to log what was delivered. -/
structure Performs (bot : Bot) (recipientId : String) (shown : List Outbound) (naps : List Nap)
    (made : List Call) (world reached : World σ) : Prop where
  becomes : Becomes logParts world.storage reached.storage
  calls : reached.calls = world.calls ++ made
  requests : made.map (·.request) = shown.map fun outbound => (bot, recipientId, outbound)
  sleeps : reached.sleeps = world.sleeps ++ naps
  entries : world.storage.TakesEntries → reached.storage.source.issued ≤ 2 ^ 64 →
    reached.storage.TakesEntries ∧
      ∃ added, reached.storage.store.entries = world.storage.store.entries ++ added ∧
        List.Forall₂ LogEntry.IsFor (made.filter (·.delivers)) added

namespace Performs

variable {bot : Bot} {recipientId : String}

theorem refl (bot : Bot) (recipientId : String) (world : World σ) :
    Performs bot recipientId [] [] [] world world where
  becomes := Becomes.refl _ _
  calls := (List.append_nil _).symm
  requests := rfl
  sleeps := (List.append_nil _).symm
  entries takes _ := ⟨takes, [], (List.append_nil _).symm, .nil⟩

theorem append {shown shown' : List Outbound} {naps naps' : List Nap} {made made' : List Call}
    {world middle reached : World σ} (first : Performs bot recipientId shown naps made world middle)
    (second : Performs bot recipientId shown' naps' made' middle reached) :
    Performs bot recipientId (shown ++ shown') (naps ++ naps') (made ++ made') world reached where
  becomes := first.becomes.trans second.becomes
  calls := by rw [second.calls, first.calls, List.append_assoc]
  requests := by rw [List.map_append, List.map_append, first.requests, second.requests]
  sleeps := by rw [second.sleeps, first.sleeps, List.append_assoc]
  entries takes bound := by
    obtain ⟨takes, added, entries, logged⟩ :=
      first.entries takes (Nat.le_trans second.becomes.issued bound)
    obtain ⟨takes, added', entries', logged'⟩ := second.entries takes bound
    refine ⟨takes, added ++ added', ?_, ?_⟩
    · rw [entries', entries, List.append_assoc]
    · rw [List.filter_append]
      exact List.rel_append logged logged'

end Performs

namespace Turn

variable (carry : Carrier σ) (bot : Bot) (recipientId : String)

theorem deliver_run (outbound : Outbound) (world : World σ) :
    (deliver carry bot recipientId outbound).run world =
      let delivered := world.gateway.send carry bot recipientId outbound
      (delivered.1, { world with
        gateway := delivered.2
        calls := world.calls ++ [{ bot, recipientId, outbound, failure := delivered.1 }] }) := rfl

theorem send_run (message : Message) (world : World σ) :
    (send carry bot recipientId message).run world =
      match (deliver carry bot recipientId (.message message)).run world with
      | (some _, reached) => (false, reached)
      | (none, reached) =>
        (true, { reached with storage := ((Bookkeeping.log bot.id recipientId message.logText .outgoing
          message.logType false).run reached.storage).2 }) := by
  rw [send, StateT.run_bind]
  rcases (deliver carry bot recipientId (.message message)).run world with ⟨failure, reached⟩
  cases failure <;> rfl

theorem called_performs (call : Call) (silent : call.delivers = false) (world : World σ)
    (gateway : Gateway σ) :
    Performs call.bot call.recipientId [call.outbound] [] [call] world
      { world with gateway, calls := world.calls ++ [call] } where
  becomes := Becomes.refl _ _
  calls := rfl
  requests := rfl
  sleeps := (List.append_nil _).symm
  entries takes _ := by
    refine ⟨takes, [], (List.append_nil _).symm, ?_⟩
    rw [List.filter_cons_of_neg (by rw [silent]; exact Bool.false_ne_true)]
    exact .nil

theorem logged_performs (message : Message) (world : World σ) (gateway : Gateway σ) :
    Performs bot recipientId [.message message] [] [{ bot, recipientId, outbound := .message message }]
      world
      { world with
        gateway
        calls := world.calls ++ [{ bot, recipientId, outbound := .message message }]
        storage := ((Bookkeeping.log bot.id recipientId message.logText .outgoing message.logType
          false).run world.storage).2 } where
  becomes := Bookkeeping.log_becomes _ _ _ _ _ _ _
  calls := rfl
  requests := rfl
  sleeps := (List.append_nil _).symm
  entries takes bound := by
    have issues := Bookkeeping.log_issues bot.id recipientId message.logText .outgoing message.logType
      false world.storage
    obtain ⟨entry, records, added, takes⟩ := Bookkeeping.log_adds takes
      (Nat.lt_of_lt_of_le issues bound) bot.id recipientId message.logText .outgoing message.logType
      false
    exact ⟨takes, [entry], added, .cons ⟨message, rfl, records⟩ .nil⟩

theorem send_performs (message : Message) (world : World σ) :
    ∃ call : Call, call.delivers = ((send carry bot recipientId message).run world).1 ∧
      Performs bot recipientId [.message message] [] [call] world
        ((send carry bot recipientId message).run world).2 := by
  rw [send_run, deliver_run]
  rcases world.gateway.send carry bot recipientId (.message message) with ⟨failure, gateway⟩
  cases failure with
  | some failure =>
    let call : Call := ⟨bot, recipientId, .message message, some failure⟩
    exact ⟨call, rfl, called_performs call rfl world gateway⟩
  | none =>
    let call : Call := ⟨bot, recipientId, .message message, none⟩
    exact ⟨call, rfl, logged_performs bot recipientId message world gateway⟩

theorem showTyping_performs (pause : Pause) (on : Bool) (world : World σ) :
    ∃ made : List Call, made.countP (·.delivers) = 0 ∧
      Performs bot recipientId (if pause.showTyping then [.typing on] else []) [] made world
        ((showTyping carry bot recipientId pause on).run world).2 := by
  rw [showTyping]
  cases pause.showTyping with
  | false => exact ⟨[], rfl, Performs.refl bot recipientId world⟩
  | true =>
    let delivered := world.gateway.send carry bot recipientId (.typing on)
    let call : Call := ⟨bot, recipientId, .typing on, delivered.1⟩
    have silent : call.delivers = false := Bool.and_false _
    exact ⟨[call], List.countP_cons_of_neg (by rw [silent]; exact Bool.false_ne_true),
      called_performs call silent world delivered.2⟩

theorem makePause_performs (options : Options) (pause : Pause) (world : World σ) :
    Performs bot recipientId [] [napFor options pause] [] world
      ((makePause options pause).run world).2 where
  becomes := Becomes.refl _ _
  calls := (List.append_nil _).symm
  requests := rfl
  sleeps := rfl
  entries takes _ := ⟨takes, [], (List.append_nil _).symm, .nil⟩

theorem perform_performs (options : Options) (effect : Effect) (world : World σ) :
    ∃ made : List Call,
      ((perform carry options bot recipientId effect).run world).1 = made.countP (·.delivers) ∧
      Performs bot recipientId effect.shown (effect.naps options) made world
        ((perform carry options bot recipientId effect).run world).2 := by
  cases effect with
  | send message =>
    obtain ⟨call, delivered, performed⟩ := send_performs carry bot recipientId message world
    refine ⟨[call], ?_, performed⟩
    rw [List.countP_singleton, delivered]
    rfl
  | wait pause =>
    obtain ⟨made, none, shown⟩ := showTyping_performs carry bot recipientId pause true world
    have paused := makePause_performs bot recipientId options pause
      ((showTyping carry bot recipientId pause true).run world).2
    obtain ⟨made', none', hidden⟩ := showTyping_performs carry bot recipientId pause false
      ((makePause options pause).run ((showTyping carry bot recipientId pause true).run world).2).2
    -- the indicator is shown before and hidden after the pause, and neither call counts
    refine ⟨made ++ [] ++ made', ?_, ?_⟩
    · rw [List.countP_append, List.append_nil, none, none']
      rfl
    · have both : (Effect.wait pause).shown = (if pause.showTyping then [.typing true] else []) ++ [] ++
          (if pause.showTyping then [.typing false] else []) := by
        cases shows : pause.showTyping <;> simp [Effect.shown, shows]
      rw [both]
      exact (shown.append paused).append hidden

theorem performAll_performs (options : Options) (effects : List Effect) (world : World σ) :
    ∃ made : List Call,
      ((performAll carry options bot recipientId effects).run world).1 = made.countP (·.delivers) ∧
      Performs bot recipientId (effects.flatMap (·.shown)) (effects.flatMap (·.naps options)) made
        world ((performAll carry options bot recipientId effects).run world).2 := by
  induction effects generalizing world with
  | nil => exact ⟨[], rfl, Performs.refl bot recipientId world⟩
  | cons effect rest ih =>
    obtain ⟨made, sent, performed⟩ := perform_performs carry bot recipientId options effect world
    obtain ⟨made', sent', performed'⟩ :=
      ih ((perform carry options bot recipientId effect).run world).2
    refine ⟨made ++ made', ?_, performed.append performed'⟩
    rw [List.countP_append, ← sent, ← sent']
    rfl

end Turn

end Parley
