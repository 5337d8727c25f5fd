import Parley.Proofs.Turn.Tenancy

/-!
Bots that share a store. A turn of one bot does what it would do if the store held nothing but the
records of that bot, and leaves the records of all other bots as they are.
-/

namespace Parley.Turn

variable {σ τ : Type} {tenant : Tenant} {bot : Bot} {options : Options} {incoming : Incoming}
  {carry : Carrier σ} {world : World σ}

def ownWorld (botId : String) (world : World σ) : World σ :=
  { world with storage := world.storage.own botId }

/-! ### Logging what is shown -/

theorem logCall_own {storage : Storage} {call : Call} (mine : call.bot.id = tenant.botId)
    (guards : tenant.Guards storage) (bound : (logCall storage call).source.issued ≤ tenant.limit) :
    tenant.Guards (logCall storage call) ∧
      logCall (storage.own tenant.botId) call = (logCall storage call).own tenant.botId := by
  unfold logCall at bound ⊢
  cases delivered : call.message? with
  | none => exact ⟨guards, rfl⟩
  | some message =>
    have keeps : ConfinedAt tenant True _ storage _ _ := KeepsTo.recordMessage call.recipientId
      message.logText .outgoing message.logType false storage
    simp only [delivered, Bookkeeping.log_run, mine] at bound ⊢
    obtain ⟨guards, alone, _⟩ := keeps.runs trivial guards bound
    exact ⟨guards, congrArg Prod.snd alone⟩

theorem logged_own {calls : List Call} (mine : ∀ call ∈ calls, call.bot.id = tenant.botId)
    {storage : Storage} (guards : tenant.Guards storage)
    (bound : (logged calls storage).source.issued ≤ tenant.limit) :
    tenant.Guards (logged calls storage) ∧
      logged calls (storage.own tenant.botId) = (logged calls storage).own tenant.botId := by
  induction calls generalizing storage with
  | nil => exact ⟨guards, rfl⟩
  | cons call rest ih =>
    have later := (logged_becomes rest (logCall storage call)).issued
    obtain ⟨guards, alone⟩ := logCall_own (mine call List.mem_cons_self) guards
      (Nat.le_trans later bound)
    have rest := ih (fun call member => mine call (List.mem_cons_of_mem _ member)) guards bound
    rw [← alone] at rest
    exact rest

theorem showIn_own (mine : bot.id = tenant.botId) {recipientId : String} {shown : List Outbound}
    {naps : List Nap} (guards : tenant.Guards world.storage)
    (bound : (showIn carry bot recipientId shown naps world).storage.source.issued ≤ tenant.limit) :
    tenant.Guards (showIn carry bot recipientId shown naps world).storage ∧
      showIn carry bot recipientId shown naps (ownWorld tenant.botId world) =
        ownWorld tenant.botId (showIn carry bot recipientId shown naps world) := by
  have calls (call : Call) (made : call ∈ (world.gateway.showAll carry bot recipientId shown).1) :
      call.bot.id = tenant.botId := by
    rw [(Gateway.mem_showAll made).1, mine]
  obtain ⟨guards, alone⟩ := logged_own calls guards bound
  refine ⟨guards, ?_⟩
  simp only [showIn, shownIn, ownWorld, alone]

theorem endedIn_own (mine : bot.id = tenant.botId) {settled : Except Failure TurnResult × Storage}
    (guards : tenant.Guards settled.2)
    (bound : (endedIn carry bot options incoming world settled).2.storage.source.issued ≤
      tenant.limit) :
    tenant.Guards (endedIn carry bot options incoming world settled).2.storage ∧
      endedIn carry bot options incoming (ownWorld tenant.botId world)
          (settled.1, settled.2.own tenant.botId) =
        ((endedIn carry bot options incoming world settled).1,
          ownWorld tenant.botId (endedIn carry bot options incoming world settled).2) := by
  obtain ⟨answer, final⟩ := settled
  cases answer with
  | ok result => exact ⟨guards, rfl⟩
  | error failure =>
    let world' : World σ := { world with storage := final }
    have told : tenant.Guards (showIn carry bot incoming.senderId
        (spoken (answerTo options failure)) [] world').storage ∧ _ := showIn_own mine guards bound
    exact ⟨told.1, congrArg (Prod.mk _) told.2⟩

/-! ### A turn of one bot -/

theorem planFrom_own {storage : Storage} (guards : tenant.Guards storage) {begun : Start}
    (mine : begun.Of tenant.botId) :
    planFrom options (storage.own tenant.botId) begun = planFrom options storage begun :=
  Plan.run_same guards.findBlock (Storage.findBlock_faithful storage) mine

/-- A turn runs as it would among the records of its bot alone, and leaves all others as they are, if no
other bot uses an id that it issues. -/
theorem execute_own (carry : Carrier σ) (options : Options) (incoming : Incoming)
    (mine : bot.id = tenant.botId) (guards : tenant.Guards world.storage)
    (bound : ((execute carry options bot incoming).run world).2.storage.source.issued ≤
      tenant.limit) :
    tenant.Guards ((execute carry options bot incoming).run world).2.storage ∧
      (execute carry options bot incoming).run (ownWorld tenant.botId world) =
        (((execute carry options bot incoming).run world).1,
          ownWorld tenant.botId ((execute carry options bot incoming).run world).2) := by
  have opens : ConfinedAt tenant True _ world.storage (ready options bot incoming) _ :=
    keeps_ready mine incoming world.storage
  have opens := opens.runs trivial guards
  rcases opened : outcome (ready options bot incoming) world.storage with ⟨answer, reached⟩
  rw [opened] at opens
  -- each phase issues no more ids than the whole turn
  cases answer with
  | error failure =>
    rw [execute_of_unready carry bot opened] at bound ⊢
    obtain ⟨guards, alone, _⟩ := opens (Nat.le_trans
      (endedIn_becomes _ _ (.error failure, reached)).issued bound)
    have alone : outcome (ready options bot incoming) (ownWorld tenant.botId world).storage =
        (.error failure, reached.own tenant.botId) := alone
    rw [execute_of_unready carry bot alone]
    exact endedIn_own mine guards bound
  | ok begun =>
    obtain ⟨session, begun⟩ := begun
    rw [execute_of_ready carry bot opened] at bound ⊢
    let world' : World σ := { world with storage := reached }
    let plan := planFrom options reached begun
    let performed := performedIn carry bot session.senderId options world' plan
    let sent := deliveredIn carry bot session.senderId world' plan
    have settles : ConfinedAt tenant (tenant.Owns session) _ performed.storage
        (settle session begun plan sent) _ := keeps_settle begun plan sent performed.storage
    have settled := Nat.le_trans (endedIn_becomes _ _ _).issued bound
    have shown := Nat.le_trans settles.later settled
    have read : reached.source.issued ≤ performed.storage.source.issued :=
      (logged_becomes _ reached).issued
    obtain ⟨guards, alone, of⟩ := opens (Nat.le_trans read shown)
    obtain ⟨owns, starts⟩ := of (session, begun) rfl
    have performs : tenant.Guards performed.storage ∧
        performedIn carry bot session.senderId options (ownWorld tenant.botId world') plan =
          ownWorld tenant.botId performed := showIn_own mine guards shown
    obtain ⟨guards', performs⟩ := performs
    obtain ⟨guards'', settles, _⟩ := settles.runs owns guards' settled
    have settles : outcome (settle session begun plan sent) (ownWorld tenant.botId performed).storage =
        _ := settles
    have alone : outcome (ready options bot incoming) (ownWorld tenant.botId world).storage =
        (.ok (session, begun), reached.own tenant.botId) := alone
    have ended : tenant.Guards (endedIn carry bot options incoming performed
        (outcome (settle session begun plan sent) performed.storage)).2.storage ∧ _ :=
      endedIn_own mine guards'' bound
    rw [← settles, ← performs] at ended
    rw [execute_of_ready carry bot alone, planFrom_own guards starts]
    exact ended

/-! ### Two stores -/

theorem GoAlike.refl (options : Options) (opened : (Session × Start) × Storage) :
    GoAlike options Eq Eq opened opened :=
  ⟨rfl, rfl, fun _ _ => Agree.coincide ⟨rfl, rfl⟩⟩

/-- No id that is issued between two states of a storage is in use by another bot. -/
def IssuesFree (botId : String) (storage reached : Storage) : Prop :=
  ∀ number, storage.source.issued ≤ number → number < reached.source.issued →
    (storage.store.rest botId).Free (Source.idOf number)

/-- In two stores that hold the same records of a bot, and any records of other bots, a turn of the bot
has the same result, shows the same and leaves the same records of the bot; all records of other bots
stay as they are. -/
theorem bots_do_not_interfere (carry : Carrier σ) (carry' : Carrier τ) (options : Options) (bot : Bot)
    (incoming : Incoming) {world : World σ} {other : World τ}
    (own : other.storage.own bot.id = world.storage.own bot.id)
    (abreast : Abreast carry carry' bot world other)
    (exclusive : world.storage.store.Exclusive) (exclusive' : other.storage.store.Exclusive) :
    let run := (execute carry options bot incoming).run world
    let run' := (execute carry' options bot incoming).run other
    IssuesFree bot.id world.storage run.2.storage → IssuesFree bot.id other.storage run'.2.storage →
      run'.1 = run.1 ∧ Abreast carry carry' bot run.2 run'.2 ∧
        run'.2.storage.own bot.id = run.2.storage.own bot.id ∧
        run.2.storage.store.rest bot.id = world.storage.store.rest bot.id ∧
        run'.2.storage.store.rest bot.id = other.storage.store.rest bot.id := by
  intro run run' fresh fresh'
  let tenant : Tenant := ⟨bot.id, world.storage.store.rest bot.id, run.2.storage.source.issued⟩
  let tenant' : Tenant := ⟨bot.id, other.storage.store.rest bot.id, run'.2.storage.source.issued⟩
  have guards : tenant.Guards world.storage := ⟨rfl, exclusive, fresh⟩
  have guards' : tenant'.Guards other.storage := ⟨rfl, exclusive', fresh'⟩
  obtain ⟨kept, alone⟩ := execute_own carry options incoming rfl guards (Nat.le_refl _)
  obtain ⟨kept', alone'⟩ := execute_own carry' options incoming rfl guards' (Nat.le_refl _)
  -- among the records of the bot alone the two turns are one
  have opens : Coincide Eq (GoAlike options Eq Eq)
      (outcome (ready options bot incoming) (ownWorld bot.id world).storage)
      (outcome (ready options bot incoming) (ownWorld bot.id other).storage) := by
    rw [show (ownWorld bot.id other).storage = (ownWorld bot.id world).storage from own]
    refine (Agree.coincide ⟨rfl, rfl⟩).mono (fun _ _ same => same) ?_
    rintro ⟨started, reached⟩ ⟨_, _⟩ ⟨rfl, rfl⟩
    exact .refl options _
  have abreast : Abreast carry carry' bot (ownWorld bot.id world) (ownWorld bot.id other) :=
    ⟨abreast.gateways, abreast.calls, abreast.sleeps⟩
  have together := execute_abreast (fun _ _ call same => congrArg (logCall · call) same) abreast opens
  rw [show (execute carry options bot incoming).run (ownWorld bot.id world) = _ from alone,
    show (execute carry' options bot incoming).run (ownWorld bot.id other) = _ from alone'] at together
  obtain ⟨result, shown, succeeded, failed⟩ := together
  have stored : run.2.storage.own bot.id = run'.2.storage.own bot.id := by
    cases success : run.1.success with
    | true => exact succeeded success
    | false => exact failed success
  exact ⟨result, ⟨shown.gateways, shown.calls, shown.sleeps⟩, stored.symm, kept.rest, kept'.rest⟩

def welcomer : Block where
  id := "hello"
  botId := "ann"
  cards := [⟨none, .text "Hello!"⟩]
  triggers := ["hi"]
  createdAt := ⟨0, none⟩

def sharedWith (others : List Block) (sessions : List Session) : World Unit where
  storage := { store := .memory { blocks := welcomer :: others, sessions }, source := { micros := 0 } }
  gateway := { name := "test", medium := () }

def bye : Block := { welcomer with id := "bye", botId := "bob" }

def greeted (world : World Unit) : TurnResult × World Unit :=
  (execute (fun _ _ _ medium => { medium }) {} { id := "ann" }
    { senderId := "eve", text := "hi" }).run world

theorem sharedWith_exclusive {others : List Block} (elsewhere : others ⊆ [bye])
    (sessions : List Session) : (sharedWith others sessions).storage.store.Exclusive := by
  have known (block : Block) (member : block ∈ welcomer :: others) : block = welcomer ∨ block = bye :=
    (List.mem_cons.mp member).imp id fun other => List.mem_singleton.mp (elsewhere other)
  refine ⟨fun block first other second same => ?_, fun flow none => by cases none⟩
  rcases known block first with rfl | rfl <;> rcases known other second with rfl | rfl
  · rfl
  · exact absurd same (by decide)
  · exact absurd same (by decide)
  · rfl

theorem sharedWith_issuesFree {others : List Block} (elsewhere : others ⊆ [bye])
    (sessions : List Session) (reached : Storage) :
    IssuesFree "ann" (sharedWith others sessions).storage reached := by
  intro number _ _
  refine ⟨List.not_mem_nil, fun taken => ?_, List.not_mem_nil⟩
  obtain ⟨block, member, named⟩ := List.mem_map.mp taken
  have issued := congrArg (fun id : String => id.toList.length) named
  rw [Source.idOf_length] at issued
  rcases List.mem_cons.mp (List.mem_filter.mp member).1 with rfl | other
  · exact absurd issued (by decide)
  · cases List.mem_singleton.mp (elsewhere other)
    exact absurd issued (by decide)

/-- Another bot that listens to the same word is not heard. -/
theorem neighbour_is_not_heard :
    let run := greeted (sharedWith [] [])
    let run' := greeted (sharedWith [bye] [{ id := "1", botId := "bob", senderId := "eve" }])
    run'.1 = run.1 ∧ run'.2.calls = run.2.calls ∧
      run'.2.storage.own "ann" = run.2.storage.own "ann" ∧
      run'.2.storage.store.rest "ann" =
        .memory { blocks := [bye], sessions := [{ id := "1", botId := "bob", senderId := "eve" }] } := by
  intro run run'
  have nothing : ([] : List Block) ⊆ [bye] := List.nil_subset _
  have everything : [bye] ⊆ [bye] := List.Subset.refl _
  have own : (sharedWith [bye] [{ id := "1", botId := "bob", senderId := "eve" }]).storage.own "ann" =
      (sharedWith [] []).storage.own "ann" := rfl
  have abreast : Abreast (fun _ _ _ medium => { medium }) (fun _ _ _ medium => { medium })
      { id := "ann" } (sharedWith [] [])
      (sharedWith [bye] [{ id := "1", botId := "bob", senderId := "eve" }]) :=
    ⟨Gateway.AlikeFor.refl _ _ _, rfl, rfl⟩
  obtain ⟨result, shown, own, _, rest⟩ := bots_do_not_interfere _ _ {} { id := "ann" }
    { senderId := "eve", text := "hi" } own abreast (sharedWith_exclusive nothing _)
    (sharedWith_exclusive everything _) (sharedWith_issuesFree nothing _ _)
    (sharedWith_issuesFree everything _ _)
  exact ⟨result, shown.calls, own, rest⟩

end Parley.Turn
