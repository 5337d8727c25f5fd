import Parley.Proofs.Turn.Bystanders
import Parley.Proofs.Turn.Defaults
import Parley.Proofs.Turn.Received
import Parley.Proofs.Turn.Runs

/-!
Authored content. Turns read it and leave it as it is: all that they add to it is the default blocks
that a bot lacks, behind all other blocks and once for all.
-/

namespace Parley

open Storage (Part Becomes SameBut)

def Storage.personal : List Part := [.sessions, .contacts, .entries, .counts]

def Store.authored (store : Store) : Store := store.blank Storage.personal

/-- There are numbers for the default blocks of every bot that lacks a default answer. -/
def Store.HasRoom (store : Store) : Prop :=
  ∀ botId, store.flagCount .defaultAnswer botId = 0 → store.Roomy botId 2

/-- How many of some blocks are of a bot and have a flag. -/
def BlockFlag.count (flag : BlockFlag) (botId : String) (blocks : List Block) : Nat :=
  blocks.countP fun block => block.botId = botId && flag.ofBlock block

/-- A store gains blocks: all its content is as it was, and the new blocks are listed behind those that
were there. -/
structure Store.Gains (store : Store) (created : List Block) (reached : Store) : Prop where
  added : store.authored.addBlocks created = .ok reached.authored
  blocks : ∀ botId enabledOnly, reached.listBlocks botId enabledOnly =
    store.listBlocks botId enabledOnly ++ created.filter (·.botId = botId)
  flows : ∀ botId activeOnly, reached.listFlows botId activeOnly = store.listFlows botId activeOnly

namespace Store

variable {store middle reached : Store} {created more : List Block}

theorem addBlocks_flagCount (added : store.addBlocks created = .ok reached) (flag : BlockFlag)
    (botId : String) :
    reached.flagCount flag botId = store.flagCount flag botId + flag.count botId created := by
  induction created generalizing store with
  | nil =>
    cases added
    rfl
  | cons block rest ih =>
    obtain ⟨middle, first, later⟩ := addBlocks_cons added
    have here := addBlock_flagCount first flag botId
    have rest := ih later
    rw [rest, here, BlockFlag.count, BlockFlag.count, List.countP_cons]
    omega

theorem flagCount_authored (flag : BlockFlag) (botId : String) (store : Store) :
    store.authored.flagCount flag botId = store.flagCount flag botId :=
  flagCount_blank (by decide) flag botId store

theorem HasRoom.of_authored (room : store.HasRoom) (same : reached.authored = store.authored) :
    reached.HasRoom := by
  intro botId absent
  rw [← flagCount_authored, same, flagCount_authored] at absent
  have seen : .blocks ∉ Storage.personal := by decide
  rw [← Roomy.blank seen, ← authored, same, authored, Roomy.blank seen]
  exact room botId absent

namespace Gains

theorem of_authored (same : reached.authored = store.authored) : store.Gains [] reached := by
  have seen : .blocks ∉ Storage.personal ∧ .flows ∉ Storage.personal := by decide
  refine ⟨congrArg Except.ok same.symm, fun botId enabledOnly => ?_, fun botId activeOnly => ?_⟩
  · rw [List.filter_nil, List.append_nil, ← listBlocks_blank seen.1 _ _ reached,
      ← listBlocks_blank seen.1 _ _ store]
    exact congrArg (listBlocks botId enabledOnly) same
  · rw [← listFlows_blank seen.2 _ _ reached, ← listFlows_blank seen.2 _ _ store]
    exact congrArg (listFlows botId activeOnly) same

theorem trans (first : store.Gains created middle) (second : middle.Gains more reached) :
    store.Gains (created ++ more) reached := by
  refine ⟨addBlocks_append first.added second.added, fun botId enabledOnly => ?_,
    fun botId activeOnly => ?_⟩
  · rw [second.blocks, first.blocks, List.filter_append, List.append_assoc]
  · rw [second.flows, first.flows]

theorem flagCount (gains : store.Gains created reached) (flag : BlockFlag) (botId : String) :
    reached.flagCount flag botId = store.flagCount flag botId + flag.count botId created := by
  have counted := addBlocks_flagCount gains.added flag botId
  rwa [flagCount_authored, flagCount_authored] at counted

end Gains

end Store

/-! ### Default blocks as a gain -/

namespace Bootstrap.Equips

variable {options : Options} {botId : String} {store reached : Store} {created : List Block}

theorem plain (equips : Equips options botId store created) :
    created.length ≤ 2 ∧ ∀ block ∈ created, block.botId = botId ∧ block.isEnabled = true := by
  cases equips with
  | nothing => exact ⟨by decide, fun _ none => absurd none List.not_mem_nil⟩
  | answer on absent welcomed answers =>
    refine ⟨by simp, fun block member => ?_⟩
    rw [List.mem_singleton.mp member]
    exact ⟨answers.botId_eq, answers.isEnabled⟩
  | both on absent unwelcomed welcomes answers =>
    refine ⟨by simp, fun block member => ?_⟩
    rcases List.mem_cons.mp member with rfl | member
    · exact ⟨welcomes.botId_eq, welcomes.isEnabled⟩
    · rw [List.mem_singleton.mp member]
      exact ⟨answers.botId_eq, answers.isEnabled⟩

/-- No bot is given a block with a flag that it has, and none two with one flag. -/
theorem count_le (equips : Equips options botId store created) (flag : BlockFlag) (other : String) :
    flag.count other created ≤ if store.flagCount flag other = 0 then 1 else 0 := by
  cases equips with
  | nothing => exact Nat.zero_le _
  | answer on absent welcomed answers =>
    rw [BlockFlag.count, List.countP_singleton, answers.botId_eq, answers.ofBlock]
    by_cases same : botId = other
    · subst same
      cases flag with
      | welcome => simp
      | defaultAnswer => simp [absent]
    · simp [same]
  | both on absent unwelcomed welcomes answers =>
    rw [BlockFlag.count, List.countP_cons, List.countP_singleton, answers.botId_eq, answers.ofBlock,
      welcomes.botId_eq, welcomes.ofBlock]
    by_cases same : botId = other
    · subst same
      cases flag with
      | welcome => simp [unwelcomed]
      | defaultAnswer => simp [absent]
    · simp [same]

theorem gains (equips : Equips options botId store created) (room : store.HasRoom)
    (added : store.addBlocks created = .ok reached) : store.Gains created reached := by
  have seen : .blocks ∉ Storage.personal := by decide
  refine ⟨Store.addBlocks_blank seen added, ?_, Store.addBlocks_listFlows added⟩
  have lists (roomy : store.Roomy botId 2) :=
    Store.addBlocks_listBlocks added (roomy.mono equips.plain.1) equips.plain.2
  cases equips with
  | nothing =>
    cases added
    intro botId enabledOnly
    rw [List.filter_nil, List.append_nil]
  | answer on absent => exact lists (room botId absent)
  | both on absent => exact lists (room botId absent)

theorem hasRoom (equips : Equips options botId store created) (room : store.HasRoom)
    (added : store.addBlocks created = .ok reached) : reached.HasRoom := by
  intro other lacks
  have counted := Store.addBlocks_flagCount added .defaultAnswer other
  rw [lacks] at counted
  have absent : store.flagCount .defaultAnswer other = 0 := by omega
  have uncounted : BlockFlag.defaultAnswer.count other created = 0 := by omega
  have apart : ∀ block ∈ created, block.botId ≠ other := by
    rintro block member rfl
    rw [(equips.plain.2 block member).1] at uncounted
    cases equips with
    | nothing => cases member
    | answer on absent welcomed answers | both on absent unwelcomed welcomes answers =>
      simp [BlockFlag.count, answers.botId_eq, answers.ofBlock] at uncounted
  exact Store.addBlocks_roomy added apart (room other absent)

end Bootstrap.Equips

/-- A request that does nothing to a storage, or what the search for the default answer of a bot
does. -/
def SearchesAtMost {α : Type} (options : Options) (botId : String) (action : StoreM α) : Prop :=
  ∀ storage, (outcome action storage).2 = storage ∨
    (outcome action storage).2 = (outcome (Bootstrap.defaultAnswer options botId) storage).2

namespace SearchesAtMost

variable {α β : Type} {options : Options} {botId : String}

theorem search (options : Options) (botId : String) :
    SearchesAtMost options botId (Bootstrap.defaultAnswer options botId) := fun _ => .inr rfl

theorem of_reads {action : StoreM α} (reads : Touches [] action) :
    SearchesAtMost options botId action := fun storage =>
  .inl (congrArg Prod.snd (reads.reads storage))

theorem after_reading {action : StoreM α} {next : α → StoreM β} (reads : Touches [] action)
    (rest : ∀ value, SearchesAtMost options botId (next value)) :
    SearchesAtMost options botId (action >>= next) := by
  intro storage
  rw [outcome_bind, reads.reads storage]
  cases (outcome action storage).1 with
  | ok value => exact rest value storage
  | error failure => exact .inl rfl

theorem before_reading {action : StoreM α} {next : α → StoreM β}
    (first : SearchesAtMost options botId action) (reads : ∀ value, Touches [] (next value)) :
    SearchesAtMost options botId (action >>= next) := by
  intro storage
  have ends : (outcome (action >>= next) storage).2 = (outcome action storage).2 := by
    rw [outcome_bind]
    rcases outcome action storage with ⟨failure | value, reached⟩
    · rfl
    · exact congrArg Prod.snd ((reads value).reads reached)
  rw [ends]
  exact first storage

end SearchesAtMost

namespace Turn

variable {σ : Type} {options : Options} {bot : Bot} {incoming : Incoming}

theorem fallback_searches (options : Options) (session : Session) (message : String) :
    SearchesAtMost options session.botId (Resolution.fallback options session message) := by
  rw [Resolution.fallback]
  split
  · exact .of_reads (Within.pure _)
  · refine (SearchesAtMost.search options session.botId).before_reading fun answer => ?_
    cases answer with
    | some block => exact Within.pure _
    | none => exact Within.bind (Touches.listFlows _ _) fun _ => Within.pure _

theorem startOutside_searches (options : Options) (session : Session) (text : String)
    (context : Context) :
    SearchesAtMost options session.botId (startOutside options session text context) := by
  refine .after_reading (Touches.explicit session text) fun resolved => ?_
  cases resolved with
  | some resolution => exact .of_reads (Touches.ofExcept _ _)
  | none =>
    refine .after_reading (Touches.resumeOutside session text context) fun resumed => ?_
    cases resumed with
    | some resumed => exact .of_reads (Within.pure _)
    | none =>
      refine (fallback_searches options session text).before_reading fun found => ?_
      cases found with
      | some resolution => exact Touches.ofExcept _ _
      | none => exact Within.throw _

theorem start_searches (options : Options) (session : Session) (text : String) (context : Context) :
    SearchesAtMost options session.botId (start options session text context) := by
  rw [start]
  split
  · refine .after_reading Within.get fun storage => ?_
    refine .after_reading (Touches.ofExcept _ _) fun resumed => ?_
    cases resumed with
    | some resumed => exact .of_reads (Within.pure _)
    | none => exact startOutside_searches options session.outside text context
  · exact startOutside_searches options session text context

theorem ready_searches (options : Options) (bot : Bot) (incoming : Incoming) (storage : Storage) :
    ∃ opened, Becomes openingParts storage opened ∧
      ((outcome (ready options bot incoming) storage).2 = opened ∨
        (outcome (ready options bot incoming) storage).2 =
          (outcome (Bootstrap.defaultAnswer options bot.id) opened).2) := by
  have gets := Session.getOrCreate_gets bot.id incoming.senderId storage
  have got := (Touches.getOrCreate bot.id incoming.senderId storage).mono
    (by decide : _ ⊆ openingParts)
  rcases getting : outcome (Session.getOrCreate bot.id incoming.senderId) storage with
    ⟨failure | session, found⟩
  all_goals rw [getting] at got gets
  · have refused : outcome (receive bot incoming) storage = (.error failure, found) := by
      rw [outcome_receive, getting]
    rw [ready_of_failed refused]
    exact ⟨found, got, .inl rfl⟩
  · have booked := got.trans ((keepBooks_becomes bot incoming found).mono (by decide))
    rw [ready_of_received (receive_of_found getting), openReceived]
    have heeding := (Touches.heed options incoming.text session
      ((keepBooks bot incoming).run found).2).mono (by decide : _ ⊆ openingParts)
    rcases heeded : outcome (heed options incoming.text session)
      ((keepBooks bot incoming).run found).2 with ⟨failure | heed, opened⟩
    all_goals
      rw [heeded] at heeding
      refine ⟨opened, booked.trans heeding, ?_⟩
    · rw [outcome_bind_of_error heeded]
      exact .inl rfl
    · have owner : heed.botId = bot.id := (heed_owner heeded).1.trans gets.owner.1
      have searches := start_searches options heed incoming.text heed.context
      rw [owner] at searches
      rw [outcome_bind_of_ok heeded]
      exact (searches.before_reading fun _ => Within.pure _) opened

theorem execute_searches (carry : Carrier σ) (options : Options) (bot : Bot) (incoming : Incoming)
    (world : World σ) :
    ∃ opened chosen, Becomes openingParts world.storage opened ∧
      (chosen = opened ∨ chosen = (outcome (Bootstrap.defaultAnswer options bot.id) opened).2) ∧
      Becomes openingParts chosen ((execute carry options bot incoming).run world).2.storage := by
  obtain ⟨opened, opens, searched⟩ := ready_searches options bot incoming world.storage
  exact ⟨opened, _, opens, searched,
    (ready_becomes carry options bot incoming world).mono (by decide)⟩

end Turn

/-! ### Content that nobody saves -/

theorem Storage.Becomes.authored {parts : List Part} {storage reached : Storage}
    (becomes : Becomes parts storage reached) (sub : parts ⊆ Storage.personal ++ Storage.volatile) :
    reached.store.authored = storage.store.authored := by
  have drop (store : Store) :
      store.blank (Storage.personal ++ Storage.volatile) = store.authored := by
    cases store <;> simp [Store.authored, Store.blank, Memory.blank, Sql.blank, Storage.personal,
      Storage.volatile]
  rw [← drop, ← drop]
  exact (congrArg Storage.store (becomes.same.mono sub)).symm

/-- A storage in which there are ids and numbers for the default blocks that bots lack. -/
structure Storage.Tended (storage : Storage) : Prop where
  room : storage.store.HasRoom
  spares : storage.SparesBlocks (2 ^ 64)

/-- What turns do to content: they leave it as it is, and add the default blocks that a bot lacks. -/
structure Storage.Tends (options : Options) (botId : String) (storage reached : Storage) : Prop where
  tended : reached.Tended
  gains : ∃ created, storage.store.Gains created reached.store ∧
    Bootstrap.Equips options botId storage.store created

namespace Storage.Tended

variable {parts : List Part} {storage reached : Storage} {options : Options} {botId : String}

theorem after (tended : storage.Tended) (becomes : Becomes parts storage reached)
    (sub : parts ⊆ Storage.personal ++ Storage.volatile) : reached.Tended := by
  refine ⟨tended.room.of_authored (becomes.authored sub),
    tended.spares.after becomes fun touched => ?_⟩
  simpa [personal, volatile] using sub touched

theorem search (tended : storage.Tended)
    (bound : (outcome (Bootstrap.defaultAnswer options botId) storage).2.source.issued < 2 ^ 64) :
    Tends options botId storage (outcome (Bootstrap.defaultAnswer options botId) storage).2 := by
  obtain ⟨created, added, equips⟩ :=
    Bootstrap.defaultAnswer_equips (tended.room botId) tended.spares bound
  rw [Bootstrap.defaultAnswer_storage] at bound added ⊢
  exact ⟨⟨equips.hasRoom tended.room added, Bootstrap.run_spares options botId tended.spares bound⟩,
    created, equips.gains tended.room added, equips⟩

end Storage.Tended

namespace Storage.Tends

variable {parts : List Part} {storage opened chosen reached : Storage} {options : Options}
  {botId : String}

theorem of_same (tended : storage.Tended) : Tends options botId storage storage :=
  ⟨tended, [], .of_authored rfl, .nothing⟩

theorem amid (tends : Tends options botId opened chosen) (opens : Becomes parts storage opened)
    (ends : Becomes parts chosen reached) (sub : parts ⊆ Storage.personal ++ Storage.volatile) :
    Tends options botId storage reached := by
  obtain ⟨tended, created, gains, equips⟩ := tends
  have same := opens.authored sub
  have began : storage.store.Gains [] opened.store := .of_authored same
  refine ⟨tended.after ends sub, created, ?_, ?_⟩
  · have whole := (began.trans gains).trans (.of_authored (ends.authored sub))
    rwa [List.nil_append, List.append_nil] at whole
  · have counts (flag : BlockFlag) :
        opened.store.flagCount flag botId = storage.store.flagCount flag botId :=
      began.flagCount flag botId
    cases equips with
    | nothing => exact .nothing
    | answer on absent welcomed answers =>
      rw [counts] at absent welcomed
      exact .answer on absent welcomed answers
    | both on absent unwelcomed welcomes answers =>
      rw [counts] at absent unwelcomed
      exact .both on absent unwelcomed welcomes answers

end Storage.Tends

namespace Turn

variable {σ : Type}

/-- A turn adds nothing to the content but the default blocks that the bot lacks. -/
theorem execute_tends (carry : Carrier σ) (options : Options) (bot : Bot) (incoming : Incoming)
    {world : World σ} (tended : world.storage.Tended)
    (bound : ((execute carry options bot incoming).run world).2.storage.source.issued < 2 ^ 64) :
    Storage.Tends options bot.id world.storage
      ((execute carry options bot incoming).run world).2.storage := by
  obtain ⟨opened, chosen, opens, searched, ends⟩ :=
    execute_searches carry options bot incoming world
  have sub : openingParts ⊆ Storage.personal ++ Storage.volatile := by decide
  have begun := tended.after opens sub
  have early := Nat.lt_of_le_of_lt ends.issued bound
  rcases searched with rfl | rfl
  · exact (Storage.Tends.of_same begun).amid opens ends sub
  · exact (begun.search early).amid opens ends sub

end Turn

namespace History

variable {σ : Type}

def Event.saves : Event σ → Bool
  | .saveBlock _ => true
  | .saveFlow _ => true
  | _ => false

/-- What has become of the content of a world in which no author saved anything. -/
structure Rests (start reached : World σ) : Prop where
  tended : reached.storage.Tended
  gains : ∃ created, start.storage.store.Gains created reached.storage.store ∧
    ∀ flag botId, BlockFlag.count flag botId created ≤
      if start.storage.store.flagCount flag botId = 0 then 1 else 0

namespace Rests

variable {start middle reached : World σ}

theorem of_authored (tended : reached.storage.Tended)
    (same : reached.storage.store.authored = start.storage.store.authored) : Rests start reached :=
  ⟨tended, [], .of_authored same, fun _ _ => Nat.zero_le _⟩

theorem trans (first : Rests start middle) (second : Rests middle reached) : Rests start reached := by
  obtain ⟨_, created, gains, few⟩ := first
  obtain ⟨tended, more, gains', few'⟩ := second
  refine ⟨tended, created ++ more, gains.trans gains', fun flag botId => ?_⟩
  have counted := gains.flagCount flag botId
  have bound := few flag botId
  have bound' := few' flag botId
  rw [BlockFlag.count, List.countP_append]
  rw [BlockFlag.count] at bound bound' counted
  -- a flag that was given is no longer missing
  split at bound <;> split at bound' <;> split <;> omega

end Rests

theorem happen_rests {world : World σ} {event : Event σ} (unsaved : event.saves = false)
    (tended : world.storage.Tended) (bound : (happen world event).storage.source.issued < 2 ^ 64) :
    Rests world (happen world event) := by
  have quiet {α : Type} {action : StoreM α}
      (touches : Touches [.sessions, .source, .sessionLookups] action) :
      Rests world (ask action world) := by
    have becomes := touches world.storage
    exact .of_authored (tended.after becomes (by decide)) (becomes.authored (by decide))
  cases event with
  | turn carry options bot incoming =>
    obtain ⟨tended, created, gains, equips⟩ :=
      Turn.execute_tends carry options bot incoming tended bound
    exact ⟨tended, created, gains, equips.count_le⟩
  | getOrCreate botId senderId => exact quiet (Touches.getOrCreate botId senderId)
  | parkInBlock blockId index context session => exact quiet (Touches.saveSession _)
  | parkInFlow nodeId flowId context session => exact quiet (Touches.saveSession _)
  | forget session => exact quiet (Touches.saveSession _)
  | change conditions => exact .of_authored ⟨tended.room, tended.spares⟩ rfl
  | saveBlock block => cases unsaved
  | saveFlow flow => cases unsaved

theorem run_rests {start : World σ} {events : List (Event σ)}
    (unsaved : ∀ event ∈ events, event.saves = false) (tended : start.storage.Tended)
    (bound : (run start events).storage.source.issued < 2 ^ 64) : Rests start (run start events) := by
  induction events generalizing start with
  | nil => exact .of_authored tended rfl
  | cons event rest ih =>
    have early := Nat.lt_of_le_of_lt (run_issued (happen start event) rest) bound
    have first := happen_rests (unsaved event List.mem_cons_self) tended early
    exact first.trans
      (ih (fun event later => unsaved event (List.mem_cons_of_mem _ later)) first.tended bound)

theorem happen_apart (world : World σ) (event : Event σ)
    (apart : world.storage.store.SessionIdsApart) :
    (happen world event).storage.store.SessionIdsApart := by
  cases event with
  | turn carry options bot incoming =>
    exact (Turn.execute_spares carry options bot incoming world).apart apart
  | saveBlock block => exact (Touches.saveBlock block world.storage).same.apart (by decide) apart
  | saveFlow flow => exact (Touches.saveFlow flow world.storage).same.apart (by decide) apart
  | getOrCreate botId senderId =>
    exact (Turn.getOrCreate_spares botId senderId world.storage).apart apart
  | parkInBlock blockId index context session =>
    exact (Storage.saveSession_saves _ world.storage).apart apart
  | parkInFlow nodeId flowId context session =>
    exact (Storage.saveSession_saves _ world.storage).apart apart
  | forget session => exact (Storage.saveSession_saves _ world.storage).apart apart
  | change conditions => exact apart

theorem run_apart {start : World σ} (apart : start.storage.store.SessionIdsApart)
    (events : List (Event σ)) : (run start events).storage.store.SessionIdsApart := by
  induction events generalizing start with
  | nil => exact apart
  | cons event rest ih => exact ih (happen_apart start event apart)

/-- While no author saves anything, all content stays as it is and where it is listed. All that is
added is the default blocks that bots lack, behind all others and at most one of each for a bot, and no
turn changes the session or the contact of another sender. -/
theorem content_stays_authored {start : World σ} (apart : start.storage.store.SessionIdsApart)
    (room : start.storage.store.HasRoom) (spares : start.storage.SparesBlocks (2 ^ 64))
    (events : List (Event σ)) (unsaved : ∀ event ∈ events, event.saves = false)
    (bound : (run start events).storage.source.issued < 2 ^ 64) :
    (∀ earlier later carry options bot incoming,
      events = earlier ++ .turn carry options bot incoming :: later →
        let before := (run start earlier).storage.store
        let after := (happen (run start earlier) (.turn carry options bot incoming)).storage.store
        (∃ created, before.Gains created after ∧ Bootstrap.Equips options bot.id before created) ∧
          after.otherSessions bot.id incoming.senderId =
            before.otherSessions bot.id incoming.senderId ∧
          after.otherContacts bot.id incoming.senderId =
            before.otherContacts bot.id incoming.senderId) ∧
      ∃ created, start.storage.store.Gains created (run start events).storage.store ∧
        ∀ flag botId, BlockFlag.count flag botId created ≤
          if start.storage.store.flagCount flag botId = 0 then 1 else 0 := by
  refine ⟨?_, (run_rests unsaved ⟨room, spares⟩ bound).gains⟩
  rintro earlier later carry options bot incoming rfl before after
  have parts : run start (earlier ++ .turn carry options bot incoming :: later) =
      run (happen (run start earlier) (.turn carry options bot incoming)) later := by
    rw [run, List.foldl_append]
    rfl
  rw [parts] at bound
  have here := Nat.lt_of_le_of_lt (run_issued _ later) bound
  have unsaved : ∀ event ∈ earlier, event.saves = false :=
    fun event member => unsaved event (List.mem_append_left _ member)
  have reached := run_rests unsaved ⟨room, spares⟩ (Nat.lt_of_le_of_lt (happen_issued _ _) here)
  have spared := Turn.execute_spares carry options bot incoming (run start earlier)
  exact ⟨(Turn.execute_tends carry options bot incoming reached.tended here).gains,
    spared.sessions (run_apart apart earlier), spared.contacts⟩

def menu : Block :=
  { id := "menu", botId := "shop", name := "Menu", createdAt := ⟨0, none⟩, triggers := ["menu"]
    cards := [{ content := .text "Tea and coffee." }] }

/-- A shop with a menu, and with nothing to say to those who do not ask for it. -/
def menuOnly : World Unit where
  storage := Storage.onMemory { blocks := [menu] } ⟨0, 1714600000000000⟩
  gateway := { name := "test", medium := () }

def openLine : Carrier Unit := fun _ _ _ medium => { medium }

def guests : List (Event Unit) :=
  [.turn openLine {} { id := "shop" } { senderId := "ann", text := "Hello?" },
    .turn openLine {} { id := "shop" } { senderId := "bob", text := "menu" },
    .turn openLine {} { id := "shop" } { senderId := "cid", text := "Anyone there?" }]

theorem guests_find_the_menu :
    menuOnly.storage.store.SessionIdsApart ∧ menuOnly.storage.store.HasRoom ∧
      menuOnly.storage.SparesBlocks (2 ^ 64) ∧ (∀ event ∈ guests, event.saves = false) ∧
      (run menuOnly guests).storage.source.issued < 2 ^ 64 ∧
      ∃ created : List Block,
        (run menuOnly guests).storage.store.listBlocks "shop" false =
          menu :: created.filter (·.botId = "shop") ∧
        BlockFlag.welcome.count "shop" created = 1 ∧
        BlockFlag.defaultAnswer.count "shop" created = 1 := by
  have room : menuOnly.storage.store.HasRoom := fun _ _ => trivial
  have spares : menuOnly.storage.SparesBlocks (2 ^ 64) := by
    intro number _ _ taken
    have issued := congrArg (·.toList.length) (List.mem_singleton.mp taken)
    rw [Source.idOf_length] at issued
    exact absurd issued (by decide)
  have unsaved : ∀ event ∈ guests, event.saves = false := by simp [guests, Event.saves]
  have bound : (run menuOnly guests).storage.source.issued < 2 ^ 64 := by decide +kernel
  obtain ⟨_, created, gains, few⟩ :=
    @content_stays_authored Unit menuOnly trivial room spares guests unsaved bound
  have counted (flag : BlockFlag)
      (absent : menuOnly.storage.store.flagCount flag "shop" = 0)
      (made : (run menuOnly guests).storage.store.flagCount flag "shop" = 1) :
      flag.count "shop" created = 1 := by
    have counts := gains.flagCount flag "shop"
    omega
  refine ⟨trivial, room, spares, unsaved, bound, created, gains.blocks "shop" false, ?_, ?_⟩
  · exact counted .welcome (by decide +kernel) (by decide +kernel)
  · exact counted .defaultAnswer (by decide +kernel) (by decide +kernel)

end History

end Parley
