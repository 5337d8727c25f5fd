import Parley.Proofs.Turn.Phases

/-!
What a turn does to the gateway apart from what it does to the store. What is shown does not depend on
the store, and the store learns from the gateway only which messages were delivered.
-/

namespace Parley

variable {σ τ : Type}

/-! ### Showing -/

/-- Shows one thing after the other, and answers the calls that were made. -/
def Gateway.showAll (carry : Carrier σ) (bot : Bot) (recipientId : String) :
    List Outbound → Gateway σ → List Call × Gateway σ
  | [], gateway => ([], gateway)
  | outbound :: rest, gateway =>
    let sent := gateway.send carry bot recipientId outbound
    let more := showAll carry bot recipientId rest sent.2
    ({ bot, recipientId, outbound, failure := sent.1 } :: more.1, more.2)

theorem Gateway.showAll_append (carry : Carrier σ) (bot : Bot) (recipientId : String)
    (shown more : List Outbound) (gateway : Gateway σ) :
    gateway.showAll carry bot recipientId (shown ++ more) =
      let first := gateway.showAll carry bot recipientId shown
      let second := first.2.showAll carry bot recipientId more
      (first.1 ++ second.1, second.2) := by
  induction shown generalizing gateway with
  | nil => rfl
  | cons outbound rest ih =>
    rw [List.cons_append, showAll, ih]
    rfl

theorem Gateway.mem_showAll {carry : Carrier σ} {bot : Bot} {recipientId : String}
    {shown : List Outbound} {gateway : Gateway σ} {call : Call}
    (made : call ∈ (gateway.showAll carry bot recipientId shown).1) :
    call.bot = bot ∧ call.outbound ∈ shown := by
  induction shown generalizing gateway with
  | nil => cases made
  | cons outbound rest ih =>
    rcases List.mem_cons.mp made with rfl | later
    · exact ⟨rfl, List.mem_cons_self⟩
    · exact ⟨(ih later).1, List.mem_cons_of_mem _ (ih later).2⟩

/-- What a gateway answers to requests of a bot that come one after the other. -/
def Gateway.answers (carry : Carrier σ) (bot : Bot) :
    List (String × Outbound) → Gateway σ → List (Option DeliveryFailure)
  | [], _ => []
  | (recipientId, outbound) :: rest, gateway =>
    let sent := gateway.send carry bot recipientId outbound
    sent.1 :: answers carry bot rest sent.2

/-- Two gateways that a bot cannot tell apart, whatever it shows. -/
def Gateway.AlikeFor (carry : Carrier σ) (carry' : Carrier τ) (bot : Bot) (gateway : Gateway σ)
    (other : Gateway τ) : Prop :=
  ∀ requests, other.answers carry' bot requests = gateway.answers carry bot requests

namespace Gateway.AlikeFor

variable {carry : Carrier σ} {carry' : Carrier τ} {bot : Bot} {gateway : Gateway σ}
  {other : Gateway τ}

theorem refl (carry : Carrier σ) (bot : Bot) (gateway : Gateway σ) :
    gateway.AlikeFor carry carry bot gateway := fun _ => rfl

theorem send (alike : gateway.AlikeFor carry carry' bot other) (recipientId : String)
    (outbound : Outbound) :
    (other.send carry' bot recipientId outbound).1 = (gateway.send carry bot recipientId outbound).1 ∧
      (gateway.send carry bot recipientId outbound).2.AlikeFor carry carry' bot
        (other.send carry' bot recipientId outbound).2 :=
  ⟨(List.cons.inj (alike [(recipientId, outbound)])).1,
    fun rest => (List.cons.inj (alike ((recipientId, outbound) :: rest))).2⟩

theorem showAll (alike : gateway.AlikeFor carry carry' bot other) (recipientId : String)
    (shown : List Outbound) :
    (other.showAll carry' bot recipientId shown).1 = (gateway.showAll carry bot recipientId shown).1 ∧
      (gateway.showAll carry bot recipientId shown).2.AlikeFor carry carry' bot
        (other.showAll carry' bot recipientId shown).2 := by
  induction shown generalizing gateway other with
  | nil => exact ⟨rfl, alike⟩
  | cons outbound rest ih =>
    obtain ⟨answer, after⟩ := alike.send recipientId outbound
    obtain ⟨calls, reached⟩ := ih after
    refine ⟨?_, reached⟩
    rw [Gateway.showAll, Gateway.showAll]
    simp only [answer, calls]

end Gateway.AlikeFor

def Call.message? (call : Call) : Option Message :=
  match call.outbound, call.failure with
  | .message message, none => some message
  | _, _ => none

namespace Turn

open Storage (logParts Becomes)

def logCall (storage : Storage) (call : Call) : Storage :=
  match call.message? with
  | some message => ((Bookkeeping.log call.bot.id call.recipientId message.logText .outgoing
      message.logType false).run storage).2
  | none => storage

def logged (calls : List Call) (storage : Storage) : Storage := calls.foldl logCall storage

theorem logged_append (calls more : List Call) (storage : Storage) :
    logged (calls ++ more) storage = logged more (logged calls storage) := List.foldl_append

theorem logCall_becomes (storage : Storage) (call : Call) :
    Becomes logParts storage (logCall storage call) := by
  unfold logCall
  cases call.message? with
  | some message => exact Bookkeeping.log_becomes _ _ _ _ _ _ _
  | none => exact Becomes.refl _ storage

theorem logged_becomes (calls : List Call) (storage : Storage) :
    Becomes logParts storage (logged calls storage) := by
  induction calls generalizing storage with
  | nil => exact Becomes.refl _ storage
  | cons call rest ih => exact (logCall_becomes storage call).trans (ih (logCall storage call))

def shownIn (world : World σ) (shown : List Call × Gateway σ) (naps : List Nap) : World σ where
  storage := logged shown.1 world.storage
  gateway := shown.2
  sleeps := world.sleeps ++ naps
  calls := world.calls ++ shown.1

theorem shownIn_nil (world : World σ) : shownIn world ([], world.gateway) [] = world := by
  rw [shownIn, List.append_nil, List.append_nil]
  rfl

variable (carry : Carrier σ) (bot : Bot) (recipientId : String)

/-- Shows some things in a world, and makes some pauses. -/
def showIn (shown : List Outbound) (naps : List Nap) (world : World σ) : World σ :=
  shownIn world (world.gateway.showAll carry bot recipientId shown) naps

theorem showIn_append (shown more : List Outbound) (naps naps' : List Nap) (world : World σ) :
    showIn carry bot recipientId (shown ++ more) (naps ++ naps') world =
      showIn carry bot recipientId more naps' (showIn carry bot recipientId shown naps world) := by
  simp only [showIn, shownIn, Gateway.showAll_append, logged_append, List.append_assoc]

theorem deliver_shows (outbound : Outbound) (silent : ∀ message, outbound ≠ .message message)
    (world : World σ) :
    ((deliver carry bot recipientId outbound).run world).2 =
      showIn carry bot recipientId [outbound] [] world := by
  have unlogged (failure : Option DeliveryFailure) (storage : Storage) :
      logged [{ bot, recipientId, outbound, failure }] storage = storage := by
    cases outbound with
    | message message => exact absurd rfl (silent message)
    | typing | value => rfl
  rw [deliver_run, showIn, shownIn, List.append_nil]
  simp only [Gateway.showAll, unlogged]

theorem send_shows (message : Message) (world : World σ) :
    (send carry bot recipientId message).run world =
      ((world.gateway.send carry bot recipientId (.message message)).1.isNone,
        showIn carry bot recipientId [.message message] [] world) := by
  rw [send_run, deliver_run, showIn, shownIn, Gateway.showAll, Gateway.showAll, List.append_nil]
  rcases world.gateway.send carry bot recipientId (.message message) with ⟨failure, gateway⟩
  cases failure <;> rfl

theorem showTyping_shows (pause : Pause) (on : Bool) (world : World σ) :
    ((showTyping carry bot recipientId pause on).run world).2 =
      showIn carry bot recipientId (if pause.showTyping then [.typing on] else []) [] world := by
  rw [showTyping]
  cases pause.showTyping with
  | false => exact (shownIn_nil world).symm
  | true => exact deliver_shows carry bot recipientId (.typing on) (fun _ same => by cases same) world

theorem makePause_shows (options : Options) (pause : Pause) (world : World σ) :
    ((makePause options pause).run world).2 =
      showIn carry bot recipientId [] [napFor options pause] world := by
  rw [showIn, Gateway.showAll, shownIn, List.append_nil]
  rfl

theorem countP_shown (outbound : Outbound) (gateway : Gateway σ) :
    (gateway.showAll carry bot recipientId [outbound]).1.countP (·.delivers) =
      if (gateway.send carry bot recipientId outbound).1.isNone && !outbound.isTyping then 1 else 0 :=
  List.countP_singleton

theorem perform_shows (options : Options) (effect : Effect) (world : World σ) :
    (perform carry options bot recipientId effect).run world =
      ((world.gateway.showAll carry bot recipientId effect.shown).1.countP (·.delivers),
        showIn carry bot recipientId effect.shown (effect.naps options) world) := by
  cases effect with
  | send message =>
    change (if ((send carry bot recipientId message).run world).1 then 1 else 0,
      ((send carry bot recipientId message).run world).2) = _
    rw [send_shows, Effect.shown, countP_shown]
    simp only [Outbound.isTyping, Bool.not_false, Bool.and_true]
    rfl
  | wait pause =>
    have typing (on : Bool) (gateway : Gateway σ) :
        (gateway.showAll carry bot recipientId
          (if pause.showTyping then [.typing on] else [])).1.countP (·.delivers) = 0 := by
      cases pause.showTyping with
      | false => rfl
      | true =>
        rw [if_pos rfl, countP_shown]
        simp [Outbound.isTyping]
    have both : (Effect.wait pause).shown = (if pause.showTyping then [.typing true] else []) ++
        ([] ++ if pause.showTyping then [.typing false] else []) := by
      cases shows : pause.showTyping <;> simp [Effect.shown, shows]
    have naps : (Effect.wait pause).naps options = [] ++ ([napFor options pause] ++ []) := rfl
    have silent : (world.gateway.showAll carry bot recipientId
        (Effect.wait pause).shown).1.countP (·.delivers) = 0 := by
      simp only [both, Gateway.showAll_append, List.countP_append, typing, Gateway.showAll,
        List.countP_nil]
    rw [silent, both, naps, showIn_append, showIn_append, ← showTyping_shows, ← makePause_shows,
      ← showTyping_shows]
    rfl

theorem performAll_shows (options : Options) (effects : List Effect) (world : World σ) :
    (performAll carry options bot recipientId effects).run world =
      ((world.gateway.showAll carry bot recipientId (effects.flatMap (·.shown))).1.countP
          (·.delivers),
        showIn carry bot recipientId (effects.flatMap (·.shown)) (effects.flatMap (·.naps options))
          world) := by
  induction effects generalizing world with
  | nil => exact (congrArg (Prod.mk 0) (shownIn_nil world)).symm
  | cons effect rest ih =>
    have first := perform_shows carry bot recipientId options effect world
    have more := ih (showIn carry bot recipientId effect.shown (effect.naps options) world)
    change (((perform carry options bot recipientId effect).run world).1 +
        ((performAll carry options bot recipientId rest).run
          ((perform carry options bot recipientId effect).run world).2).1,
      ((performAll carry options bot recipientId rest).run
        ((perform carry options bot recipientId effect).run world).2).2) = _
    rw [first, more, List.flatMap_cons, List.flatMap_cons, showIn_append, Gateway.showAll_append,
      List.countP_append]
    rfl

def spoken (value : Json) : List Outbound := if value.isPresent then [said value] else []

theorem reply_shows (value : Json) (world : World σ) :
    ((reply carry bot recipientId value).run world).2 =
      showIn carry bot recipientId (spoken value) [] world := by
  rw [reply, spoken]
  cases value.isPresent with
  | false => exact (shownIn_nil world).symm
  | true =>
    cases value with
    | str text => exact congrArg Prod.snd (send_shows carry bot recipientId (.text text) world)
    | null | bool | int | float | arr | obj =>
      exact deliver_shows carry bot recipientId _ (fun _ same => by cases same) world

/-! ### The whole turn -/

section

variable (options : Options) (incoming : Incoming) (world : World σ)

/-- What a turn comes to with its answer. A sender is told of a failure. -/
def endedIn : Except Failure TurnResult × Storage → TurnResult × World σ
  | (.ok result, final) => (result, { world with storage := final })
  | (.error failure, final) =>
    ({ success := false, error := some failure.message },
      showIn carry bot incoming.senderId (spoken (answerTo options failure)) []
        { world with storage := final })

def performedIn (plan : Plan) : World σ :=
  showIn carry bot recipientId (plan.effects.flatMap (·.shown))
    (plan.effects.flatMap (·.naps options)) world

def deliveredIn (plan : Plan) : Nat :=
  (world.gateway.showAll carry bot recipientId (plan.effects.flatMap (·.shown))).1.countP (·.delivers)

variable {options incoming world}

theorem execute_of_unready {failure : Failure} {reached : Storage}
    (opened : outcome (ready options bot incoming) world.storage = (.error failure, reached)) :
    (execute carry options bot incoming).run world =
      endedIn carry bot options incoming world (.error failure, reached) := by
  rw [execute_run, attempt_of_unready carry options bot incoming opened]
  simp only [reply_shows]
  rfl

theorem execute_of_ready {session : Session} {begun : Start} {reached : Storage}
    (opened : outcome (ready options bot incoming) world.storage = (.ok (session, begun), reached)) :
    (execute carry options bot incoming).run world =
      let plan := planFrom options reached begun
      let world' : World σ := { world with storage := reached }
      let performed := performedIn carry bot session.senderId options world' plan
      let sent := deliveredIn carry bot session.senderId world' plan
      endedIn carry bot options incoming performed
        (outcome (settle session begun plan sent) performed.storage) := by
  rw [execute_run, attempt_of_ready carry options bot incoming opened]
  simp only [performedIn, deliveredIn, performAll_shows, reply_shows]
  generalize outcome (settle session begun _ _) _ = settled
  rcases settled with ⟨answer, final⟩
  cases answer <;> rfl

theorem endedIn_becomes (settled : Except Failure TurnResult × Storage) :
    Becomes logParts settled.2 (endedIn carry bot options incoming world settled).2.storage := by
  obtain ⟨answer, final⟩ := settled
  cases answer with
  | ok result => exact Becomes.refl _ final
  | error failure => exact logged_becomes _ final

theorem settle_touches (session : Session) (begun : Start) (plan : Plan) (sent : Nat) :
    Touches [.sessions, .source, .sessionLookups] (settle session begun plan sent) :=
  Within.bind (park_touches session begun plan) fun _ => Within.pure _

end

/-- Where logging a message and settling the turn lead to related storages, so does all that a turn does
after it was opened. -/
theorem execute_related (carry : Carrier σ) {options : Options} {bot : Bot} {incoming : Incoming}
    {world : World σ} {R : Storage → Storage → Prop} [IsPreorder Storage R]
    (logs : ∀ storage reached, Becomes logParts storage reached → R storage reached)
    (settles : ∀ session begun reached,
      outcome (ready options bot incoming) world.storage = (.ok (session, begun), reached) →
      ∀ sent, Within R (settle session begun (planFrom options reached begun) sent)) :
    R (outcome (ready options bot incoming) world.storage).2
      ((execute carry options bot incoming).run world).2.storage := by
  rcases opened : outcome (ready options bot incoming) world.storage with ⟨answer, reached⟩
  cases answer with
  | error failure =>
    rw [execute_of_unready carry bot opened]
    exact logs _ _ (endedIn_becomes carry bot (.error failure, reached))
  | ok readied =>
    obtain ⟨session, begun⟩ := readied
    rw [execute_of_ready carry bot opened]
    have performed := logs _ _ (logged_becomes (world.gateway.showAll carry bot session.senderId
      ((planFrom options reached begun).effects.flatMap (·.shown))).1 reached)
    have settled := settles session begun reached opened
    refine IsTrans.trans _ _ _ ?_ (logs _ _ (endedIn_becomes carry bot _))
    exact IsTrans.trans _ _ _ performed (settled _ _)

theorem ready_becomes (carry : Carrier σ) (options : Options) (bot : Bot) (incoming : Incoming)
    (world : World σ) :
    Becomes [.sessions, .sessionLookups, .entries, .counts, .source]
      (outcome (ready options bot incoming) world.storage).2
      ((execute carry options bot incoming).run world).2.storage := by
  refine execute_related carry (fun _ _ logged => logged.mono (by decide)) ?_
  intro session begun reached _ sent
  exact (settle_touches session begun _ sent).mono (by decide)

/-! ### Two turns -/

/-- Two worlds that a bot cannot tell apart by what it shows. -/
structure Abreast (carry : Carrier σ) (carry' : Carrier τ) (bot : Bot) (world : World σ)
    (other : World τ) : Prop where
  gateways : world.gateway.AlikeFor carry carry' bot other.gateway
  calls : other.calls = world.calls
  sleeps : other.sleeps = world.sleeps

/-- Two opened turns plan the same and are settled alike, whatever is logged meanwhile: if they fail,
the storages are related by `R`, else by `Q`. -/
structure GoAlike (options : Options) (R Q : Storage → Storage → Prop)
    (opened opened' : (Session × Start) × Storage) : Prop where
  recipient : opened'.1.1.senderId = opened.1.1.senderId
  plans : planFrom options opened'.2 opened'.1.2 = planFrom options opened.2 opened.1.2
  ends : ∀ calls sent,
    Coincide R (fun ended ended' => ended.1 = ended'.1 ∧ Q ended.2 ended'.2)
      (outcome (settle opened.1.1 opened.1.2 (planFrom options opened.2 opened.1.2) sent)
        (logged calls opened.2))
      (outcome (settle opened'.1.1 opened'.1.2 (planFrom options opened.2 opened.1.2) sent)
        (logged calls opened'.2))

theorem settle_ok {session : Session} {begun : Start} {plan : Plan} {sent : Nat}
    {storage reached : Storage} {result : TurnResult}
    (run : outcome (settle session begun plan sent) storage = (.ok result, reached)) :
    result.success = true := by
  obtain ⟨_, _, _, answered⟩ := outcome_bind_ok run
  cases answered
  rfl

section

variable {carry bot} {carry' : Carrier τ} {world : World σ} {other : World τ}

theorem Abreast.showIn (abreast : Abreast carry carry' bot world other) (recipientId : String)
    (shown : List Outbound) (naps : List Nap) :
    Abreast carry carry' bot (showIn carry bot recipientId shown naps world)
      (Turn.showIn carry' bot recipientId shown naps other) := by
  obtain ⟨calls, gateways⟩ := abreast.gateways.showAll recipientId shown
  refine ⟨gateways, ?_, ?_⟩
  · rw [Turn.showIn, Turn.showIn, shownIn, shownIn, abreast.calls, calls]
  · rw [Turn.showIn, Turn.showIn, shownIn, shownIn, abreast.sleeps]

theorem logged_related {R : Storage → Storage → Prop}
    (logs : ∀ storage other call, R storage other → R (logCall storage call) (logCall other call))
    (calls : List Call) {storage other : Storage} (related : R storage other) :
    R (logged calls storage) (logged calls other) := by
  induction calls generalizing storage other with
  | nil => exact related
  | cons call rest ih => exact ih (logs storage other call related)

theorem endedIn_abreast {options : Options} {incoming : Incoming} {R Q : Storage → Storage → Prop}
    (logs : ∀ storage other call, R storage other → R (logCall storage call) (logCall other call))
    (abreast : Abreast carry carry' bot world other)
    {settled settled' : Except Failure TurnResult × Storage}
    (good : ∀ result, settled.1 = .ok result → result.success = true)
    (coincide : Coincide R (fun ended ended' => ended.1 = ended'.1 ∧ Q ended.2 ended'.2) settled
      settled') :
    let ended := endedIn carry bot options incoming world settled
    let ended' := endedIn carry' bot options incoming other settled'
    ended'.1 = ended.1 ∧ Abreast carry carry' bot ended.2 ended'.2 ∧
      (ended.1.success = true → Q ended.2.storage ended'.2.storage) ∧
      (ended.1.success = false → R ended.2.storage ended'.2.storage) := by
  cases coincide with
  | @ok result result' final final' related =>
    obtain ⟨results, related⟩ := related
    have success := good result rfl
    refine ⟨results.symm, ⟨abreast.gateways, abreast.calls, abreast.sleeps⟩, fun _ => related,
      fun failed => ?_⟩
    cases success.symm.trans failed
  | @error failure final final' related =>
    have ends : Abreast carry carry' bot { world with storage := final }
        { other with storage := final' } := ⟨abreast.gateways, abreast.calls, abreast.sleeps⟩
    refine ⟨rfl, ends.showIn _ _ _, (fun succeeded => by cases succeeded), fun _ => ?_⟩
    have calls := (abreast.gateways.showAll incoming.senderId
      (spoken (answerTo options failure))).1
    simp only [endedIn, Turn.showIn, shownIn, calls]
    exact logged_related logs _ related

/-- A turn that opens alike in two worlds shows the same and has the same result in both, and leaves
related storages. -/
theorem execute_abreast {options : Options} {incoming : Incoming} {R Q : Storage → Storage → Prop}
    (logs : ∀ storage other call, R storage other → R (logCall storage call) (logCall other call))
    (abreast : Abreast carry carry' bot world other)
    (opens : Coincide R (GoAlike options R Q) (outcome (ready options bot incoming) world.storage)
      (outcome (ready options bot incoming) other.storage)) :
    let run := (execute carry options bot incoming).run world
    let run' := (execute carry' options bot incoming).run other
    run'.1 = run.1 ∧ Abreast carry carry' bot run.2 run'.2 ∧
      (run.1.success = true → Q run.2.storage run'.2.storage) ∧
      (run.1.success = false → R run.2.storage run'.2.storage) := by
  intro run run'
  rcases opened : outcome (ready options bot incoming) world.storage with ⟨answer, reached⟩
  rcases opened' : outcome (ready options bot incoming) other.storage with ⟨answer', reached'⟩
  rw [opened, opened'] at opens
  cases opens with
  | @error failure _ _ related =>
    have ran : run = _ := execute_of_unready carry bot opened
    have ran' : run' = _ := execute_of_unready carry' bot opened'
    rw [ran, ran']
    exact endedIn_abreast logs abreast (fun _ same => by cases same) (.error related)
  | @ok started started' _ _ related =>
    obtain ⟨session, begun⟩ := started
    obtain ⟨session', begun'⟩ := started'
    obtain ⟨recipient, plans, ends⟩ := related
    dsimp only at recipient plans ends
    have ran : run = _ := execute_of_ready carry bot opened
    have ran' : run' = _ := execute_of_ready carry' bot opened'
    have begins : Abreast carry carry' bot { world with storage := reached }
        { other with storage := reached' } := ⟨abreast.gateways, abreast.calls, abreast.sleeps⟩
    generalize planFrom options reached begun = plan at plans ends ran
    have performed := begins.showIn session.senderId (plan.effects.flatMap (·.shown))
      (plan.effects.flatMap (·.naps options))
    have calls := (abreast.gateways.showAll session.senderId (plan.effects.flatMap (·.shown))).1
    have sent : deliveredIn carry' bot session.senderId { other with storage := reached' } plan =
        deliveredIn carry bot session.senderId { world with storage := reached } plan :=
      congrArg (List.countP Call.delivers) calls
    have stores : (performedIn carry' bot session.senderId options
        { other with storage := reached' } plan).storage = logged (world.gateway.showAll carry bot
          session.senderId (plan.effects.flatMap (·.shown))).1 reached' :=
      congrArg (logged · reached') calls
    rw [ran, ran', plans, recipient]
    dsimp only
    rw [sent, stores]
    exact endedIn_abreast logs performed (fun _ settled => settle_ok (Prod.ext settled rfl))
      (ends _ _)

end

end Turn

end Parley
