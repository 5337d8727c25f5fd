import Parley.Proofs.Engine.Readings
import Parley.Proofs.Turn.Furnishing
import Parley.Proofs.Turn.Hosting
import Parley.Proofs.Turn.Stale

/-!
Interrupts. The turn of a sender who interrupts a conversation goes as that of one who has never
written.
-/

namespace Parley

open Storage (Part SameBut Level AlikeBut Becomes)

/-! ### Plans of one text -/

def Plan.saying (context : Context) (budget : Budget) (text : String) : Plan :=
  match budget.tick.overrun? with
  | some failure => .failed failure
  | none =>
    let rest : Plan := match budget.tick.tick.overrun? with
      | some failure => .failed failure
      | none => { ending := .finished }
    rest.after (sendText (context.fill text))

theorem Plan.run_saying {block : Block} {card : Option String} {text : String}
    (cards : block.cards = [⟨card, .text text⟩]) (find : FindBlock) (context : Context)
    {budget : Budget} (fresh : budget.visited = []) :
    Plan.run find context budget block.begin = saying context budget text := by
  rw [Block.begin, saying]
  cases first : budget.tick.overrun? with
  | some failure =>
    have refused : budget.charge (Cursor.card block 0).entered = .error failure := by
      simp only [Budget.charge, first]
    exact Plan.run_refused refused
  | none =>
    let paid : Budget := { budget.tick with visited := [block.id] }
    have charged : budget.charge (Cursor.card block 0).entered = .ok paid := by
      have entered : (Cursor.card block 0).entered = some block.id := rfl
      have unvisited : budget.tick.visited = [] := fresh
      simp only [Budget.charge, first, entered, Budget.enter, unvisited, List.not_mem_nil, if_false,
        paid]
    have here : block.card? 0 = some ⟨card, .text text⟩ := by
      rw [Block.card?, Block.place_of_nonneg (Int.le_refl 0), cards]
      rfl
    have shown : Plan.step find context (.card block 0) =
        .ok { effects := sendText (context.fill text), next := .goto (.card block 1) } :=
      Block.step_of_card here
    rw [Plan.run_goto charged shown]
    refine congrArg (Plan.after _) ?_
    have later : (Cursor.card block 1).entered = none := rfl
    cases second : budget.tick.tick.overrun? with
    | some failure =>
      have refused : paid.charge (Cursor.card block 1).entered = .error failure := by
        have overrun : paid.tick.overrun? = some failure := second
        simp only [Budget.charge, overrun]
      exact Plan.run_refused refused
    | none =>
      have charged : paid.charge (Cursor.card block 1).entered = .ok paid.tick := by
        have within : paid.tick.overrun? = none := second
        simp only [Budget.charge, within, later]
      have past : block.step find context 1 = .ok { next := .done } :=
        Block.step_of_past (by rw [cards]; exact Int.le_refl 1)
      have ended : Plan.step find context (.card block 1) = .ok { next := .done } := past
      rw [Plan.run_goto charged ended, Plan.run_done]
      rfl

theorem SayAlike.plans {block other : Block} (say : SayAlike block other) (find find' : FindBlock)
    (context : Context) {budget : Budget} (fresh : budget.visited = []) :
    Plan.run find' context budget other.begin = Plan.run find context budget block.begin := by
  obtain ⟨card, text, cards, cards'⟩ := say.single
  rw [Plan.run_saying cards find context fresh, Plan.run_saying cards' find' context fresh]

namespace Turn

/-! ### Starts that go alike -/

/-- Two starts of turns that go alike, each in its storage. -/
structure StartsAlike (options : Options) (context : Context) (parts : List Part)
    (started started' : Start × Storage) : Prop where
  mode : started'.1.mode = started.1.mode
  known : started.1.context = context
  known' : started'.1.context = context
  plans : planFrom options started'.2 started'.1 = planFrom options started.2 started.1
  alike : AlikeBut parts started.2 started'.2

variable {parts : List Part} {storage other : Storage} {options : Options}
  {botId senderId text : String} {context : Context} {limit limit' : Nat}

theorem begin_startsAlike (same : SameBut parts storage other) (seen : .blocks ∉ parts)
    (options : Options) (context : Context) (target : Target) :
    Coincide (AlikeBut parts) (StartsAlike options context parts)
      (outcome (Storage.ofExcept (begin context target)) storage)
      (outcome (Storage.ofExcept (begin context target)) other) := by
  rw [Storage.outcome_ofExcept, Storage.outcome_ofExcept]
  cases begun : begin context target with
  | error failure => exact .error same.alike
  | ok begun =>
    have known := begin_context begun
    refine .ok ⟨rfl, known, known, ?_, same.alike⟩
    rw [planFrom, planFrom, same.findBlock seen]

/-- What a message starts that asks for nothing by itself: the same in two stores, or default answers
that say the same. -/
inductive Falls (parts : List Part) :
    Option Resolution × Storage → Option Resolution × Storage → Prop where
  | same (found : Option Resolution) {storage other : Storage} (same : SameBut parts storage other) :
    Falls parts (found, storage) (found, other)
  | made {block block' : Block} {storage other : Storage} (alike : AlikeBut parts storage other)
    (say : SayAlike block block') :
    Falls parts (some { target := .block block, reason := .defaultAnswer }, storage)
      (some { target := .block block', reason := .defaultAnswer }, other)

theorem defaultAnswer_issued (session : Session) (outside : session.inBlock = false)
    (options : Options) (text : String) (storage : Storage) :
    (outcome (Bootstrap.defaultAnswer options session.botId) storage).2.source.issued ≤
      (outcome (Resolution.fallback options session text) storage).2.source.issued := by
  rw [Resolution.fallback, outside]
  refine Touches.issued_bind [] (fun answer => ?_) _ storage
  cases answer with
  | some block => exact Within.pure _
  | none => exact Within.bind (Touches.listFlows _ _) fun _ => Within.pure _

theorem fallback_issued (options : Options) (session : Session) (text : String) (context : Context)
    (storage : Storage) :
    (outcome (Resolution.fallback options session text) storage).2.source.issued ≤
      (outcome (startUnasked options session text context) storage).2.source.issued := by
  refine Touches.issued_bind [] (fun found => ?_) _ storage
  cases found with
  | some resolution => exact Touches.ofExcept _ _
  | none => exact Within.throw _

theorem fallback_falls (session : Session) (outside : session.inBlock = false)
    (same : SameBut parts storage other) (blocks : .blocks ∉ parts) (flows : .flows ∉ parts)
    (drawn : .source ∈ parts) (unused : storage.Unused 2 limit) (unused' : other.Unused 2 limit')
    (bound : (outcome (Resolution.fallback options session text) storage).2.source.issued ≤ limit)
    (bound' : (outcome (Resolution.fallback options session text) other).2.source.issued ≤ limit') :
    Coincide (AlikeBut parts) (Falls parts)
      (outcome (Resolution.fallback options session text) storage)
      (outcome (Resolution.fallback options session text) other) := by
  have answers := Nat.le_trans (defaultAnswer_issued session outside options text storage) bound
  have answers' := Nat.le_trans (defaultAnswer_issued session outside options text other) bound'
  rw [Resolution.fallback, outside]
  refine Coincide.bind
    (Bootstrap.defaultAnswer_alike blocks drawn same unused unused' answers answers') ?_
  intro answer answer' reached reached' alike
  cases alike with
  | found answer same =>
    cases answer with
    | some block => exact .ok (.same _ same)
    | none =>
      refine Coincide.bind ((Respects.listFlows flows session.botId true _ _ same).coincide.mono
        (fun _ _ same => same.alike) fun _ _ same => same) ?_
      rintro listed _ _ _ ⟨rfl, same⟩
      exact .ok (.same _ same)
  | made alike say => exact .ok (.made alike say)

theorem startUnasked_alike (session : Session) (outside : session.inBlock = false)
    (same : SameBut parts storage other) (blocks : .blocks ∉ parts) (flows : .flows ∉ parts)
    (drawn : .source ∈ parts) (unused : storage.Unused 2 limit) (unused' : other.Unused 2 limit')
    (bound : (outcome (startUnasked options session text context) storage).2.source.issued ≤ limit)
    (bound' : (outcome (startUnasked options session text context) other).2.source.issued ≤ limit') :
    Coincide (AlikeBut parts) (StartsAlike options context parts)
      (outcome (startUnasked options session text context) storage)
      (outcome (startUnasked options session text context) other) := by
  have falls := fallback_falls session outside same blocks flows drawn unused unused'
    (Nat.le_trans (fallback_issued options session text context storage) bound)
    (Nat.le_trans (fallback_issued options session text context other) bound')
  refine Coincide.bind falls ?_
  intro found found' reached reached' falls
  cases falls with
  | same found same =>
    cases found with
    | none => exact .error same.alike
    | some resolution => exact begin_startsAlike same blocks options context resolution.target
  | made alike say => exact .ok ⟨rfl, rfl, rfl, say.plans _ _ context rfl, alike⟩

/-- A sender who is parked nowhere starts alike in two stores with the same content. -/
theorem startIdle_alike (same : SameBut parts storage other) (blocks : .blocks ∉ parts)
    (flows : .flows ∉ parts) (drawn : .source ∈ parts) (unused : storage.Unused 2 limit)
    (unused' : other.Unused 2 limit')
    (bound : (outcome (startIdle options botId senderId text context) storage).2.source.issued ≤ limit)
    (bound' :
      (outcome (startIdle options botId senderId text context) other).2.source.issued ≤ limit') :
    Coincide (AlikeBut parts) (StartsAlike options context parts)
      (outcome (startIdle options botId senderId text context) storage)
      (outcome (startIdle options botId senderId text context) other) := by
  let idle : Session := { id := "", botId, senderId }
  have asked := Touches.reads (Touches.explicit idle text) storage
  have asked' := Touches.reads (Touches.explicit idle text) other
  rw [← (Respects.explicit blocks idle text storage other same).1] at asked'
  rw [startIdle, startOutside, outcome_bind, asked] at bound ⊢
  rw [startIdle, startOutside, outcome_bind, asked'] at bound'
  rw [outcome_bind, asked']
  generalize (outcome (Resolution.explicit idle text) storage).1 = answer at bound bound' ⊢
  cases answer with
  | error failure => exact .error same.alike
  | ok found =>
    cases found with
    | some resolution => exact begin_startsAlike same blocks options context resolution.target
    | none => exact startUnasked_alike idle rfl same blocks flows drawn unused unused' bound bound'

/-! ### Ids that are not in use -/

/-- The ids to be issued, up to a limit, are not in use. -/
def Spares (limit : Nat) (storage : Storage) : Prop :=
  ∀ number, storage.source.issued ≤ number → number < limit →
    storage.store.Free (Source.idOf number)

theorem Spares.blocks (spares : Spares limit storage) : storage.SparesBlocks limit :=
  fun number later below => (spares number later below).block

/-! ### Two senders who interrupt -/

/-- Two storages in which a conversation was forgotten, if the store works. -/
structure Forgotten (works : Prop) (botId senderId : String) (storage other : Storage) : Prop where
  alike : AlikeBut openingParts storage other
  level : works →
    Level (SessionRow.Agree []) (.blocks :: openingParts) botId senderId storage other

theorem Forgotten.after {works : Prop} {more : List Part} {reached reached' : Storage}
    (forgotten : Forgotten works botId senderId storage other) (sub : more ⊆ openingParts)
    (kept : SameBut more storage reached) (kept' : SameBut more other reached')
    (sessions : .sessions ∉ more) (lookups : .sessionLookups ∉ more) :
    Forgotten works botId senderId reached reached' := by
  have alike := forgotten.alike.after sub kept kept'
  exact ⟨alike, fun works => (forgotten.level works).after kept kept' sessions lookups alike.same⟩

section

variable {bot : Bot} {incoming : Incoming} {session session' : Session}
  {held : SessionRow → SessionRow → Prop}

theorem heed_works (works : Works storage)
    (finds : storage.Finds session.botId session.senderId)
    (interrupted : interrupts options text = true) :
    ∃ heeded reached, outcome (heed options text session) storage = (.ok heeded, reached) := by
  have short : storage.store.overflows session.reset = false := by cases storage.store <;> rfl
  have finds : storage.Finds session.reset.botId session.reset.senderId := finds
  obtain ⟨saved, reached, run, _⟩ := Storage.saveSession_of_fits finds.current works.2 short
    finds.admits finds.apart
  rw [heed, if_pos interrupted]
  exact ⟨saved, reached, run⟩

theorem start_of_forgotten {forgotten : Session} (owner : forgotten.botId = botId ∧
    forgotten.senderId = senderId) (twin : session.reset.Twin forgotten) (storage : Storage) :
    outcome (start options forgotten text forgotten.context) storage =
      outcome (startIdle options botId senderId text []) storage := by
  have block : forgotten.currentBlockId = none := by rw [twin]; rfl
  have node : forgotten.currentNodeId = none := by rw [twin]; rfl
  have known : forgotten.context = [] := by rw [twin]; rfl
  rw [start_of_strays (.of_idle block node storage), known, owner.1, owner.2]

theorem goAlike_of_forgotten {works : Prop} (holds : works) {begun begun' : Start}
    {reached reached' : Storage}
    (owner : session.botId = botId ∧ session.senderId = senderId)
    (owner' : session'.botId = botId ∧ session'.senderId = senderId)
    (alike : StartsAlike options [] openingParts (begun, reached) (begun', reached'))
    (forgotten : Forgotten works botId senderId reached reached') :
    GoAlike options (Forgotten works botId senderId) (Forgotten works botId senderId)
      ((session, begun), reached) ((session', begun'), reached') := by
  refine ⟨owner'.2.trans owner.2.symm, alike.plans, fun calls sent => ?_⟩
  have forgotten := forgotten.after (by decide) (logged_becomes calls reached).same
    (logged_becomes calls reached').same (by decide) (by decide)
  dsimp only
  generalize planFrom options reached begun = plan
  generalize logged calls reached = shown at forgotten ⊢
  generalize logged calls reached' = shown' at forgotten ⊢
  have settled := settle_level (forgotten.level holds) (by decide) owner owner' alike.mode
    (alike.known'.trans alike.known.symm) plan sent
  have kept := (settle_touches session begun plan sent shown).same
  have kept' := (settle_touches session' begun' plan sent shown').same
  have same := forgotten.alike.after (by decide) kept kept'
  refine (settled.and_states same).mono ?_ ?_
  · exact fun _ _ both => ⟨both.2, fun _ => both.1⟩
  · rintro ended ended' ⟨⟨answers, level⟩, same⟩
    rw [show begun.context = [] from alike.known] at level
    exact ⟨answers, same, fun _ => level⟩

/-- Two sessions of a sender that were forgotten start alike. -/
theorem start_forgotten {past : Session} (works : Prop)
    (level : Level (SessionRow.Agree []) openingParts botId senderId storage other)
    (owner : past.botId = botId ∧ past.senderId = senderId) (twin : past.reset.Twin session)
    (twin' : past.reset.Twin session') (unused : storage.Unused 2 limit)
    (unused' : other.Unused 2 limit')
    (bound : (outcome (start options session text session.context) storage).2.source.issued ≤ limit)
    (bound' :
      (outcome (start options session' text session'.context) other).2.source.issued ≤ limit') :
    Coincide (Forgotten works botId senderId)
      (fun begun begun' => StartsAlike options [] openingParts begun begun' ∧
        Forgotten works botId senderId begun.2 begun'.2)
      (outcome (start options session text session.context) storage)
      (outcome (start options session' text session'.context) other) := by
  have mine : session.botId = botId ∧ session.senderId = senderId := by rw [twin]; exact owner
  have mine' : session'.botId = botId ∧ session'.senderId = senderId := by rw [twin']; exact owner
  have kept := (Touches.start options session text session.context storage).same
  have kept' := (Touches.start options session' text session'.context other).same
  rw [start_of_forgotten mine twin] at bound kept ⊢
  rw [start_of_forgotten mine' twin'] at bound' kept' ⊢
  have starts := startIdle_alike level.same (by decide) (by decide) (by decide) unused unused' bound
    bound'
  have both : SameBut [.blocks, .source] storage _ ∧ SameBut [.blocks, .source] other _ :=
    ⟨kept, kept'⟩
  have forgotten {reached reached' : Storage} (alike : AlikeBut openingParts reached reached')
      (both : SameBut [.blocks, .source] storage reached ∧ SameBut [.blocks, .source] other reached') :
      Forgotten works botId senderId reached reached' :=
    ⟨alike, fun _ => level.after both.1 both.2 (by decide) (by decide) alike.same⟩
  refine (starts.and_states (P := fun reached reached' => SameBut [.blocks, .source] storage reached ∧
    SameBut [.blocks, .source] other reached') both).mono ?_ ?_
  · exact fun _ _ ends => forgotten ends.1 ends.2
  · exact fun _ _ ends => ⟨ends.1, forgotten ends.1.alike ends.2⟩

/-- After an interrupt two sessions of a sender open alike, whatever they were. -/
theorem openReceived_forgets {accepts : Prop} (holds : accepts) (works : Works storage)
    (level : Level held openingParts botId senderId storage other)
    (interrupted : interrupts options text = true)
    (owner : session.botId = botId ∧ session.senderId = senderId)
    (owner' : session'.botId = botId ∧ session'.senderId = senderId)
    (spares : storage.SparesBlocks limit) (spares' : other.SparesBlocks limit')
    (bound : (outcome (openReceived options text session) storage).2.source.issued ≤ limit)
    (bound' : (outcome (openReceived options text session') other).2.source.issued ≤ limit') :
    Coincide (Forgotten accepts botId senderId)
      (GoAlike options (Forgotten accepts botId senderId) (Forgotten accepts botId senderId))
      (outcome (openReceived options text session) storage)
      (outcome (openReceived options text session') other) := by
  have finds := level.finds
  rw [← owner.1, ← owner.2] at finds
  obtain ⟨heeded, opened, heeding⟩ := heed_works works finds interrupted
  have forgets := heed_level level (by decide) interrupted owner owner'
  rw [heeding] at forgets
  rcases heeding' : outcome (heed options text session') other with ⟨answer, opened'⟩
  rw [heeding'] at forgets
  have kept := (Touches.heed options text session).apply heeding
  have kept' := (Touches.heed options text session').apply heeding'
  have answered (session : Session) (begun : Start) :
      Touches [] (pure (session, begun) : StoreM (Session × Start)) := Within.pure _
  cases forgets with
  | @ok _ heeded' _ _ related =>
    obtain ⟨twin, twin', level⟩ := related
    dsimp only at twin twin' level
    rw [openReceived, outcome_bind_of_ok heeding] at bound ⊢
    rw [openReceived, outcome_bind_of_ok heeding'] at bound' ⊢
    have starts := Nat.le_trans (Touches.issued_bind _ (answered heeded) _ opened) bound
    have starts' := Nat.le_trans (Touches.issued_bind _ (answered heeded') _ opened') bound'
    have unused := (spares.after kept (by decide)).unused 2
    have unused' := (spares'.after kept' (by decide)).unused 2
    refine Coincide.bind
      (start_forgotten accepts level owner twin twin' unused unused' starts starts') ?_
    rintro begun begun' reached reached' ⟨alike, forgotten⟩
    have mine : heeded.botId = botId ∧ heeded.senderId = senderId := by rw [twin]; exact owner
    have mine' : heeded'.botId = botId ∧ heeded'.senderId = senderId := by rw [twin']; exact owner
    exact .ok (goAlike_of_forgotten holds mine mine' alike forgotten)

theorem ready_of_refusing {row : SessionRow} (same : SameBut [.sessions] storage other)
    (current : storage.staleSessions = 0) (refusing : ¬ Works storage)
    (stored : storage.sessionRow? bot.id incoming.senderId = some row)
    (valid : row.toSession = .ok session)
    (absent : other.sessionRow? bot.id incoming.senderId = none)
    (interrupted : interrupts options incoming.text = true) :
    ∃ reached reached', outcome (ready options bot incoming) storage = (.error .storeDown, reached) ∧
      outcome (ready options bot incoming) other = (.error .storeDown, reached') ∧
      AlikeBut openingParts reached reached' := by
  have current' : other.staleSessions = 0 := (same.staleSessions (by decide)).trans current
  have found := getOrCreate_of_stored current stored valid
  have missing := Storage.outcome_getSession current' bot.id incoming.senderId
  rw [absent, same.refuses] at missing
  cases gives : storage.refuses .getSession with
  | true =>
    rw [gives] at found missing
    have failed : outcome (Session.getOrCreate bot.id incoming.senderId) other =
        (.error .storeDown, other) := outcome_bind_of_error missing _
    refine ⟨storage, other, ready_of_failed ?_ options, ready_of_failed ?_ options,
      (same.mono (by decide)).alike⟩
    · rw [outcome_receive, found]
      rfl
    · rw [outcome_receive, failed]
  | false =>
    have full : storage.refuses .saveSession = true :=
      Bool.eq_true_of_not_eq_false fun takes => refusing ⟨gives, takes⟩
    rw [gives] at found missing
    have books := keepBooks_becomes bot incoming storage
    let kept := ((keepBooks bot incoming).run storage).2
    let drawn : Storage :=
      { other with source := ⟨other.source.issued + 1, other.source.micros + 1 + 1⟩ }
    have drew : SameBut [.source] other drawn := by simp [SameBut, Storage.blank, drawn]
    have unforgotten : outcome (heed options incoming.text session) kept =
        (.error .storeDown, kept) := by
      rw [heed, if_pos interrupted]
      exact Storage.saveSession_of_refuses ((books.same.refuses _).trans full)
    have failed : outcome (Session.getOrCreate bot.id incoming.senderId) other =
        (.error .storeDown, drawn) := by
      rw [getOrCreate_of_missing missing]
      exact Storage.saveSession_of_refuses (((same.trans rfl).refuses _).trans full)
    refine ⟨kept, drawn, ?_, ready_of_failed ?_ options, ?_⟩
    · rw [ready_of_received (receive_of_found found) options]
      exact outcome_bind_of_error unforgotten _
    · rw [outcome_receive, failed]
    · have all : SameBut openingParts kept drawn :=
        ((books.same.mono (by decide)).symm.trans (same.mono (by decide))).trans
          (drew.mono (by decide))
      exact all.alike

theorem ready_forgets {row : SessionRow} (same : SameBut [.sessions] storage other)
    (current : storage.staleSessions = 0) (apart : storage.store.SessionIdsApart)
    (apart' : other.store.SessionIdsApart)
    (stored : storage.sessionRow? bot.id incoming.senderId = some row)
    (valid : row.toSession = .ok session)
    (absent : other.sessionRow? bot.id incoming.senderId = none)
    (interrupted : interrupts options incoming.text = true) (spares : Spares limit storage)
    (spares' : Spares limit' other)
    (bound : (outcome (ready options bot incoming) storage).2.source.issued ≤ limit)
    (bound' : (outcome (ready options bot incoming) other).2.source.issued ≤ limit') :
    Coincide (Forgotten (Works storage) bot.id incoming.senderId)
      (GoAlike options (Forgotten (Works storage) bot.id incoming.senderId)
        (Forgotten (Works storage) bot.id incoming.senderId))
      (outcome (ready options bot incoming) storage)
      (outcome (ready options bot incoming) other) := by
  by_cases works : Works storage
  · have current' : other.staleSessions = 0 := (same.staleSessions (by decide)).trans current
    have works' : Works other := ⟨(same.refuses _).trans works.1, (same.refuses _).trans works.2⟩
    have creates := Nat.le_trans (getOrCreate_issued options bot incoming other) bound'
    have found := getOrCreate_of_stored current stored valid
    rw [works.1] at found
    obtain ⟨new, created, creating, owner', finds'⟩ :=
      getOrCreate_of_absent current' works' absent apart'
        (fun bound => (spares' _ (Nat.le_refl _) bound).session) creates
    have became := (Touches.getOrCreate bot.id incoming.senderId).apply creating
    have books := keepBooks_becomes bot incoming storage
    have books' := keepBooks_becomes bot incoming created
    rw [ready_of_received (receive_of_found found) options] at bound ⊢
    rw [ready_of_received (receive_of_found creating) options] at bound' ⊢
    have owner := Storage.sessionRow?_owner stored valid
    have finds : storage.Finds bot.id incoming.senderId := ⟨current, apart, row, stored⟩
    have finds := finds.of_same books.same (by decide) (by decide)
    have finds' := finds'.of_same books'.same (by decide) (by decide)
    have all : SameBut openingParts ((keepBooks bot incoming).run storage).2
        ((keepBooks bot incoming).run created).2 :=
      ((books.same.mono (by decide)).symm.trans (same.mono (by decide))).trans
        ((became.same.mono (by decide)).trans (books'.same.mono (by decide)))
    obtain ⟨mine, held⟩ := finds.stored
    obtain ⟨mine', held'⟩ := finds'.stored
    have level : Level (fun _ _ => True) openingParts bot.id incoming.senderId
        ((keepBooks bot incoming).run storage).2 ((keepBooks bot incoming).run created).2 :=
      ⟨all, finds, finds', mine, mine', held, held', trivial⟩
    have works'' : Works ((keepBooks bot incoming).run storage).2 :=
      ⟨(books.same.refuses _).trans works.1, (books.same.refuses _).trans works.2⟩
    exact openReceived_forgets works works'' level interrupted owner owner'
      (spares.blocks.after books (by decide))
      ((spares'.blocks.after became (by decide)).after books' (by decide)) bound bound'
  · obtain ⟨reached, reached', failed, failed', alike⟩ :=
      ready_of_refusing same current works stored valid absent interrupted
    rw [failed, failed']
    exact .error ⟨alike, fun holds => absurd holds works⟩

end

/-- A turn of a sender who interrupts the conversation shows the same, has the same result and leaves
the same in the store as that of a sender who has no session, but for ids, times and the books. If the
store works, both end parked in the same place, and know nothing. -/
theorem interrupts_erase_history {σ : Type} (carry : Carrier σ) (options : Options) (bot : Bot)
    (incoming : Incoming) {world : World σ} {other : Storage} {row : SessionRow} {session : Session}
    (interrupted : interrupts options incoming.text = true)
    (same : SameBut [.sessions] world.storage other) (current : world.storage.staleSessions = 0)
    (apart : world.storage.store.SessionIdsApart) (apart' : other.store.SessionIdsApart)
    (stored : world.storage.sessionRow? bot.id incoming.senderId = some row)
    (valid : row.toSession = .ok session)
    (absent : other.sessionRow? bot.id incoming.senderId = none) :
    let run := (execute carry options bot incoming).run world
    let run' := (execute carry options bot incoming).run { world with storage := other }
    Spares run.2.storage.source.issued world.storage → Spares run'.2.storage.source.issued other →
      run'.1 = run.1 ∧ run'.2.calls = run.2.calls ∧ run'.2.sleeps = run.2.sleeps ∧
        AlikeBut openingParts run.2.storage run'.2.storage ∧
        (Works world.storage →
          ∃ saved saved', run.2.storage.sessionRow? bot.id incoming.senderId = some saved ∧
            run'.2.storage.sessionRow? bot.id incoming.senderId = some saved' ∧
            saved.SamePlace saved' ∧ saved.context = .obj []) := by
  intro run run' spares spares'
  have bound := (ready_becomes carry options bot incoming world).issued
  have bound' := (ready_becomes carry options bot incoming { world with storage := other }).issued
  have opens := ready_forgets same current apart apart' stored valid absent interrupted spares spares'
    bound bound'
  have logs (storage other : Storage) (call : Call)
      (forgotten : Forgotten (Works world.storage) bot.id incoming.senderId storage other) :
      Forgotten (Works world.storage) bot.id incoming.senderId (logCall storage call)
        (logCall other call) :=
    forgotten.after (by decide) (logCall_becomes storage call).same (logCall_becomes other call).same
      (by decide) (by decide)
  have abreast : Abreast carry carry bot world { world with storage := other } :=
    ⟨.refl carry bot world.gateway, rfl, rfl⟩
  obtain ⟨results, shown, succeeded, failed⟩ := execute_abreast logs abreast opens
  have forgotten : Forgotten (Works world.storage) bot.id incoming.senderId run.2.storage
      run'.2.storage := by
    cases success : run.1.success with
    | true => exact succeeded success
    | false => exact failed success
  refine ⟨results, shown.calls, shown.sleeps, forgotten.alike, fun works => ?_⟩
  obtain ⟨saved, saved', mine, mine', place, known⟩ := (forgotten.level works).rows
  exact ⟨saved, saved', mine, mine', place, known⟩

def askingIn (sessions : List Session) : Storage where
  store := .memory
    { blocks := [{ id := "form", botId := "ann", cards := [⟨none, .userInput "Your name?" "name" none⟩],
                   createdAt := ⟨0, none⟩ }],
      sessions }
  source := { micros := 0 }

def asked : Session where
  id := "1"
  botId := "ann"
  senderId := "eve"
  currentBlockId := some "form"
  context := [("city", "Rome")]

def questioned : World Unit where
  storage := askingIn [asked]
  gateway := { name := "test", medium := () }

def startedOver (world : World Unit) : TurnResult × World Unit :=
  (execute (fun _ _ _ medium => { medium }) {} { id := "ann" }
    { senderId := "eve", text := "Restart" }).run world

theorem askingIn_spares (sessions : List Session) (limit : Nat) : Spares limit (askingIn sessions) := by
  refine fun number _ _ => ⟨List.not_mem_nil, fun taken => ?_, List.not_mem_nil⟩
  have issued := congrArg (fun id : String => id.toList.length) (List.mem_singleton.mp taken)
  rw [Source.idOf_length] at issued
  exact absurd issued (by decide)

/-- A sender who interrupts the question is not taken to answer it, and is known no more. -/
theorem restart_is_no_answer :
    (startedOver questioned).1.success = true ∧
      (startedOver { questioned with storage := askingIn [] }).1 = (startedOver questioned).1 ∧
      (startedOver { questioned with storage := askingIn [] }).2.calls =
        (startedOver questioned).2.calls ∧
      ∃ saved, (startedOver questioned).2.storage.sessionRow? "ann" "eve" = some saved ∧
        saved.context = .obj [] := by
  have success : (startedOver questioned).1.success = true := by decide +kernel
  have interrupted : interrupts {} "Restart" = true := by decide +kernel
  have same : SameBut [.sessions] questioned.storage (askingIn []) := rfl
  have stored : questioned.storage.sessionRow? "ann" "eve" = some asked.toRow := rfl
  have absent : (askingIn []).sessionRow? "ann" "eve" = none := rfl
  have works : Works questioned.storage := ⟨rfl, rfl⟩
  unfold startedOver at success ⊢
  dsimp only
  obtain ⟨results, calls, _, _, rows⟩ :=
    interrupts_erase_history (fun _ _ _ medium => { medium }) {} { id := "ann" }
      { senderId := "eve", text := "Restart" } interrupted same rfl trivial trivial stored
      asked.toRow_toSession absent (askingIn_spares _ _) (askingIn_spares _ _)
  obtain ⟨saved, _, kept, _, _, known⟩ := rows works
  exact ⟨success, results, calls, saved, kept, known⟩

end Turn

end Parley
