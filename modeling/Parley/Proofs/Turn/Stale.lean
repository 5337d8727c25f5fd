import Parley.Proofs.Turn.Answers
import Parley.Proofs.Turn.Level
import Parley.Proofs.Turn.Received

/-!
Pointers to content that is gone. A turn of a session that has only such pointers goes as that of a
session that is parked nowhere.
-/

namespace Parley

open Storage (Part SameBut Level)

/-! ### Choosing a start -/

namespace Overlooks

theorem bootstrapStep (options : Options) (botId : String) (state : Bootstrap) :
    Overlooks (Bootstrap.step options botId state) := by
  cases state with
  | findAnswer =>
    refine bind (findFlagged botId _) fun found => ?_
    cases found <;> exact pure _
  | loadAnswer blockId => exact bind (getBlock botId blockId) fun _ => pure _
  | findWelcome =>
    refine bind (findFlagged botId _) fun found => ?_
    cases found <;> exact pure _
  | saveWelcome => exact bind (draw _) fun block => bind (saveBlock block) fun _ => pure _
  | findAnswerAgain created =>
    refine bind (findFlagged botId _) fun found => ?_
    cases found <;> exact pure _
  | saveAnswer created => exact bind (draw _) fun block => bind (saveBlock block) fun _ => pure _
  | finished created answer => exact pure _

theorem bootstrapRun (options : Options) (botId : String) (requests : Nat) (state : Bootstrap) :
    Overlooks (Bootstrap.run options botId requests state) := by
  induction requests generalizing state with
  | zero => exact pure state
  | succ requests ih => exact bind (bootstrapStep options botId state) ih

theorem defaultAnswer (options : Options) (botId : String) :
    Overlooks (Bootstrap.defaultAnswer options botId) := by
  refine bind (bootstrapRun options botId _ _) fun state => ?_
  cases state <;> exact pure _

theorem explicit (session : Session) (message : String) :
    Overlooks (Resolution.explicit session message) := by
  rw [Resolution.explicit]
  split
  · exact pure _
  · refine bind ?_ fun named => ?_
    · rw [Resolution.ofPayload]
      split
      · exact bind (getBlock _ _) fun _ => pure _
      · exact pure _
    · cases named with
      | some block => exact pure _
      | none =>
        refine bind (bind (listBlocks _ _) fun _ => pure _) fun triggered => ?_
        cases triggered <;> exact pure _

theorem fallback (options : Options) (session : Session) (message : String) :
    Overlooks (Resolution.fallback options session message) := by
  rw [Resolution.fallback]
  split
  · exact pure _
  · refine bind (defaultAnswer options _) fun answer => ?_
    cases answer with
    | some block => exact pure _
    | none => exact bind (listFlows _ _) fun _ => pure _

theorem startUnasked (options : Options) (session : Session) (text : String) (context : Context) :
    Overlooks (Turn.startUnasked options session text context) := by
  refine bind (fallback options session text) fun found => ?_
  cases found with
  | some resolution => exact ofExcept _
  | none => exact throw _

end Overlooks

/-! ### Pointers that lead nowhere -/

/-- Wherever a session is parked, there is nothing: no such block, no such flow, or no such node in the
flow. A session that names no flow is parked in the first default flow that is active. -/
structure Storage.Strays (storage : Storage) (session : Session) : Prop where
  block : ∀ blockId, session.currentBlockId = some blockId →
    storage.findBlock session.botId blockId = .ok none
  node : ∀ nodeId, session.currentNodeId = some nodeId →
    ∃ found, (outcome session.parkedFlow storage).1 = .ok found ∧
      ∀ flow ∈ found, flow.node? nodeId = none

namespace Storage.Strays

variable {storage other : Storage} {session : Session}

theorem of_idle (block : session.currentBlockId = none) (node : session.currentNodeId = none)
    (storage : Storage) : storage.Strays session := by
  refine ⟨fun blockId inside => ?_, fun nodeId inside => ?_⟩
  · cases block.symm.trans inside
  · cases node.symm.trans inside

theorem of_same {parts : List Part} (strays : storage.Strays session)
    (same : SameBut parts storage other) (blocks : .blocks ∉ parts) (flows : .flows ∉ parts) :
    other.Strays session := by
  refine ⟨fun blockId inside => ?_, fun nodeId inside => ?_⟩
  · rw [same.findBlock blocks]
    exact strays.block blockId inside
  · rw [← (Respects.parkedFlow flows session storage other same).1]
    exact strays.node nodeId inside

end Storage.Strays

namespace Turn

variable {storage other : Storage} {session : Session} {options : Options} {text : String}
  {context : Context}

/-- The start of a turn of a sender who is parked nowhere. -/
def startIdle (options : Options) (botId senderId text : String) (context : Context) :
    StoreM Start := startOutside options { id := "", botId, senderId } text context

theorem resumeOutside_strays (strays : storage.Strays session) :
    outcome (resumeOutside session.outside text context) storage = (.ok none, storage) := by
  rw [resumeOutside]
  split
  · rename_i inside
    obtain ⟨nodeId, node⟩ := Option.isSome_iff_exists.mp inside
    obtain ⟨found, parked, gone⟩ := strays.node nodeId node
    have looked : outcome session.outside.parkedFlow storage = (.ok found, storage) := by
      rw [← parked]
      exact Touches.reads (Touches.parkedFlow session) storage
    rw [Session.resumeFlow, outcome_bind_of_ok looked]
    cases found with
    | none => rfl
    | some flow =>
      have node : session.outside.currentNodeId.getD "" = nodeId := by rw [node]; rfl
      dsimp only
      rw [node, gone flow rfl]
      rfl
  · rfl

theorem start_of_strays (strays : storage.Strays session) :
    outcome (start options session text context) storage =
      outcome (startIdle options session.botId session.senderId text context) storage := by
  have resolved := Touches.reads (Touches.explicit session.outside text) storage
  have same : Resolution.explicit { id := "", botId := session.botId, senderId := session.senderId }
      text = Resolution.explicit session.outside text := rfl
  rw [start_outside strays.block, startIdle, startOutside, startOutside, same, outcome_bind,
    outcome_bind, resolved]
  cases (outcome (Resolution.explicit session.outside text) storage).1 with
  | error failure => rfl
  | ok found =>
    cases found with
    | some resolution => rfl
    | none =>
      dsimp only
      rw [outcome_bind_of_ok (resumeOutside_strays strays)]
      rfl

theorem startIdle_respects (options : Options) (botId senderId text : String) (context : Context) :
    Respects (SameBut [.sessions]) (startIdle options botId senderId text context) := by
  refine Respects.bind (Overlooks.explicit _ text).respects fun found => ?_
  cases found with
  | some resolution => exact (Overlooks.ofExcept _).respects
  | none =>
    exact (Overlooks.startUnasked options { id := "", botId, senderId } text context).respects

theorem startIdle_context {botId senderId : String} {begun : Start} {reached : Storage}
    (run : outcome (startIdle options botId senderId text context) storage = (.ok begun, reached)) :
    begun.context = context := by
  obtain ⟨asked, middle, _, rest⟩ := outcome_bind_ok run
  cases asked with
  | some resolution =>
    dsimp only at rest
    rw [Storage.outcome_ofExcept] at rest
    exact begin_context (congrArg Prod.fst rest)
  | none =>
    have unasked : outcome (startUnasked options { id := "", botId, senderId } text context) middle =
        (.ok begun, reached) := rest
    obtain ⟨target, begins⟩ := startUnasked_begin unasked
    exact begin_context begins

/-! ### Two stores with other sessions -/

theorem keepBooks_same (bot : Bot) (incoming : Incoming) (same : SameBut [.sessions] storage other) :
    SameBut [.sessions] ((keepBooks bot incoming).run storage).2
      ((keepBooks bot incoming).run other).2 := by
  obtain ⟨visits, tracked⟩ := (Overlooks.recordVisit bot.id incoming.senderId
    incoming.profile).respects storage other same
  rw [keepBooks_run, keepBooks_run]
  simp only [Bookkeeping.track, Bookkeeping.attempt_run, Bookkeeping.log_run, visits]
  exact ((Overlooks.recordMessage _ _ _ _ _ _).respects _ _ tracked).2

theorem logCall_same (storage other : Storage) (call : Call)
    (same : SameBut [.sessions] storage other) :
    SameBut [.sessions] (logCall storage call) (logCall other call) := by
  rw [logCall, logCall]
  cases call.message? with
  | none => exact same
  | some message =>
    dsimp only
    rw [Bookkeeping.log_run, Bookkeeping.log_run]
    exact ((Overlooks.recordMessage _ _ _ _ _ _).respects _ _ same).2

/-- Two sessions of a sender with the same variables that stand nowhere, each in its storage. -/
structure Adrift (botId senderId : String) (context : Context) (heeded heeded' : Session × Storage) :
    Prop where
  owner : heeded.1.botId = botId ∧ heeded.1.senderId = senderId
  owner' : heeded'.1.botId = botId ∧ heeded'.1.senderId = senderId
  known : heeded.1.context = context
  known' : heeded'.1.context = context
  strays : heeded.2.Strays heeded.1
  strays' : heeded'.2.Strays heeded'.1

variable {botId senderId : String} {held : SessionRow → SessionRow → Prop} {session' : Session}

theorem start_adrift (options : Options) (text : String)
    (adrift : Adrift botId senderId context (session, storage) (session', other))
    (level : Level held [.sessions] botId senderId storage other) :
    Coincide (Level held [.sessions] botId senderId)
      (fun started started' => started.1 = started'.1 ∧ started.1.context = context ∧
        Level held [.sessions] botId senderId started.2 started'.2)
      (outcome (start options session text session.context) storage)
      (outcome (start options session' text session'.context) other) := by
  obtain ⟨⟨bot, sender⟩, ⟨bot', sender'⟩, known, known', strays, strays'⟩ := adrift
  dsimp only at bot sender bot' sender' known known' strays strays'
  have kept := (Touches.start options session text session.context storage).same
  have kept' := (Touches.start options session' text session'.context other).same
  have agree := startIdle_respects options botId senderId text context storage other level.same
  rw [start_of_strays strays, bot, sender, known] at kept ⊢
  rw [start_of_strays strays', bot', sender', known'] at kept' ⊢
  rcases run : outcome (startIdle options botId senderId text context) storage with ⟨answer, reached⟩
  rcases run' : outcome (startIdle options botId senderId text context) other with
    ⟨answer', reached'⟩
  rw [run, run'] at agree
  rw [run] at kept
  rw [run'] at kept'
  obtain ⟨answers, same⟩ := agree
  cases answers
  have level := level.after kept kept' (by decide) (by decide) same
  cases answer with
  | error failure => exact .error level
  | ok begun => exact .ok ⟨rfl, startIdle_context run, level⟩

theorem goAlike_of_level {begun : Start} {reached reached' : Storage} (options : Options)
    (owner : session.botId = botId ∧ session.senderId = senderId)
    (owner' : session'.botId = botId ∧ session'.senderId = senderId)
    (level : Level held [.sessions] botId senderId reached reached') :
    GoAlike options (Level held [.sessions] botId senderId)
      (Level (SessionRow.Agree begun.context) [.sessions] botId senderId)
      ((session, begun), reached) ((session', begun), reached') := by
  refine ⟨owner'.2.trans owner.2.symm, ?_, fun calls sent => ?_⟩
  · dsimp only
    rw [planFrom, planFrom, level.same.findBlock (by decide)]
  · have level := level.after (logged_becomes calls reached).same (logged_becomes calls reached').same
      (by decide) (by decide) (logged_related logCall_same calls level.same)
    exact settle_level level (by decide) owner owner' rfl rfl _ sent

/-- What a row remembers after a turn that has failed: what it knew, or nothing after an interrupt. -/
def Remembers (options : Options) (text : String) (context : Json) (row : SessionRow) : Prop :=
  row.context = context ∨ interrupts options text = true ∧ row.context = .obj []

section

variable {bot : Bot} {incoming : Incoming} {row row' : SessionRow} {idle : Session}

def keptContext (options : Options) (text : String) (context : Context) : Context :=
  if interrupts options text then [] else context

theorem heed_adrift (known : Json)
    (level : Level (fun one _ => one.context = known) [.sessions] botId senderId storage other)
    (owner : session.botId = botId ∧ session.senderId = senderId)
    (owner' : idle.botId = botId ∧ idle.senderId = senderId)
    (strays : storage.Strays session) (strays' : other.Strays idle)
    (context : idle.context = session.context) :
    Coincide (Level (fun one _ => Remembers options text known one) [.sessions] botId senderId)
      (fun heeded heeded' =>
        Adrift botId senderId (keptContext options text session.context) heeded heeded' ∧
          Level (fun one _ => Remembers options text known one) [.sessions] botId senderId heeded.2
            heeded'.2)
      (outcome (heed options text session) storage) (outcome (heed options text idle) other) := by
  cases interrupted : interrupts options text with
  | true =>
    refine (heed_level level List.mem_cons_self interrupted owner owner').mono ?_ ?_
    · exact fun _ _ level => level.mono (List.Subset.refl _) fun _ _ same => .inl same
    · rintro ⟨heeded, reached⟩ ⟨heeded', reached'⟩ ⟨twin, twin', level⟩
      rw [keptContext, if_pos interrupted]
      dsimp only [Session.Twin] at twin twin'
      have strays : reached.Strays heeded := .of_idle (by rw [twin]; rfl) (by rw [twin]; rfl) reached
      have strays' : reached'.Strays heeded' :=
        .of_idle (by rw [twin']; rfl) (by rw [twin']; rfl) reached'
      refine ⟨⟨?_, ?_, ?_, ?_, strays, strays'⟩, ?_⟩
      · rw [twin]; exact owner
      · rw [twin']; exact owner
      · rw [twin]; rfl
      · rw [twin']; rfl
      · exact level.mono (List.Subset.refl _) fun _ _ agree => .inr ⟨interrupted, agree.2⟩
  | false =>
    rw [heed, heed, keptContext, interrupted]
    refine .ok ⟨⟨owner, owner', rfl, context, strays, strays'⟩, ?_⟩
    exact level.mono (List.Subset.refl _) fun _ _ same => .inl same

theorem ready_adrift
    (level : Level (fun one two => one = row ∧ two = row') [.sessions] bot.id incoming.senderId storage
      other)
    (valid : row.toSession = .ok session) (valid' : row'.toSession = .ok idle)
    (strays : storage.Strays session) (block : idle.currentBlockId = none)
    (node : idle.currentNodeId = none) (context : idle.context = session.context)
    (options : Options) :
    Coincide
      (Level (fun one _ => Remembers options incoming.text row.context one) [.sessions] bot.id
        incoming.senderId)
      (GoAlike options
        (Level (fun one _ => Remembers options incoming.text row.context one) [.sessions] bot.id
          incoming.senderId)
        (Level (SessionRow.Agree (keptContext options incoming.text session.context)) [.sessions]
          bot.id incoming.senderId))
      (outcome (ready options bot incoming) storage)
      (outcome (ready options bot incoming) other) := by
  obtain ⟨_, _, stored, stored', rfl, rfl⟩ := level.rows
  have received := receive_level level valid valid' (keepBooks_same bot incoming level.same)
  rw [ready]
  refine Coincide.bind (received.mono ?_ fun _ _ same => same) ?_
  · exact fun _ _ level => level.mono (List.Subset.refl _) fun _ _ same =>
      .inl (congrArg SessionRow.context same.1)
  rintro _ _ reached reached' ⟨rfl, rfl, kept, level⟩
  have level := level.mono (List.Subset.refl _) fun _ _ same =>
    congrArg SessionRow.context same.1
  refine Coincide.bind (heed_adrift _ level (Storage.sessionRow?_owner stored valid)
    (Storage.sessionRow?_owner stored' valid')
    (strays.of_same kept (by decide) (by decide)) (.of_idle block node reached') context) ?_
  rintro heeded heeded' opened opened' ⟨adrift, level⟩
  refine Coincide.bind (start_adrift options incoming.text adrift level) ?_
  rintro begun _ begins begins' ⟨rfl, known, level⟩
  dsimp only at known level
  rw [← known]
  exact .ok (goAlike_of_level options adrift.owner adrift.owner' level)

/-- A turn of a session that is parked only where nothing is shows the same, has the same result and
ends in the same place as a turn of a session that is parked nowhere and knows the same. -/
theorem stale_pointers_are_transparent {σ : Type} (carry : Carrier σ) (options : Options) (bot : Bot)
    (incoming : Incoming) {world : World σ} {other : Storage}
    (same : SameBut [.sessions] world.storage other) (current : world.storage.staleSessions = 0)
    (apart : world.storage.store.SessionIdsApart) (apart' : other.store.SessionIdsApart)
    (stored : world.storage.sessionRow? bot.id incoming.senderId = some row)
    (valid : row.toSession = .ok session) (strays : world.storage.Strays session)
    (stored' : other.sessionRow? bot.id incoming.senderId = some row')
    (valid' : row'.toSession = .ok idle) (block : idle.currentBlockId = none)
    (node : idle.currentNodeId = none) (context : idle.context = session.context) :
    let run := (execute carry options bot incoming).run world
    let run' := (execute carry options bot incoming).run { world with storage := other }
    run'.1 = run.1 ∧ run'.2.calls = run.2.calls ∧ run'.2.sleeps = run.2.sleeps ∧
      SameBut [.sessions] run.2.storage run'.2.storage ∧
      ∃ saved saved', run.2.storage.sessionRow? bot.id incoming.senderId = some saved ∧
        run'.2.storage.sessionRow? bot.id incoming.senderId = some saved' ∧
        (run.1.success = true → saved.SamePlace saved' ∧ saved.context =
          Session.contextJson (keptContext options incoming.text session.context)) ∧
        (run.1.success = false → Remembers options incoming.text row.context saved) := by
  intro run run'
  have level : Level (fun one two => one = row ∧ two = row') [.sessions] bot.id incoming.senderId
      world.storage other :=
    ⟨same, ⟨current, apart, row, stored⟩,
      ⟨(same.staleSessions (by decide)).trans current, apart', row', stored'⟩, row, row', stored,
      stored', rfl, rfl⟩
  have opens := ready_adrift level valid valid' strays block node context options
  have logs (held : SessionRow → SessionRow → Prop) (storage other : Storage) (call : Call)
      (level : Level held [.sessions] bot.id incoming.senderId storage other) :
      Level held [.sessions] bot.id incoming.senderId (logCall storage call) (logCall other call) :=
    level.after (logCall_becomes storage call).same (logCall_becomes other call).same (by decide)
      (by decide) (logCall_same storage other call level.same)
  have abreast : Abreast carry carry bot world { world with storage := other } :=
    ⟨.refl carry bot world.gateway, rfl, rfl⟩
  obtain ⟨results, shown, succeeded, failed⟩ := execute_abreast (logs _) abreast opens
  refine ⟨results, shown.calls, shown.sleeps, ?_⟩
  cases success : run.1.success with
  | true =>
    have level := succeeded success
    obtain ⟨saved, saved', mine, mine', agree⟩ := level.rows
    exact ⟨level.same, saved, saved', mine, mine', fun _ => agree, fun bad => by cases bad⟩
  | false =>
    have level := failed success
    obtain ⟨saved, saved', mine, mine', remembers⟩ := level.rows
    exact ⟨level.same, saved, saved', mine, mine', (fun good => by cases good), fun _ => remembers⟩

end

def strandedIn (blockId : Option String) : Storage where
  store := .memory
    { blocks := [{ id := "hi", botId := "ann", cards := [⟨none, .text "Hi!"⟩], triggers := ["hi"],
                   createdAt := ⟨0, none⟩ }],
      sessions := [{ id := "1", botId := "ann", senderId := "eve", currentBlockId := blockId,
                     context := [("name", "Eve")] }] }
  source := { micros := 0 }

def greetingIn (blockId : Option String) : TurnResult × World Unit :=
  (execute (fun _ _ _ medium => { medium }) {} { id := "ann" } { senderId := "eve", text := "hi" }).run
    { storage := strandedIn blockId, gateway := { name := "test", medium := () } }

/-- A sender who is in a block that is gone is heard like one who is nowhere. -/
theorem stranded_sender_is_heard :
    let run := greetingIn (some "gone")
    let run' := greetingIn none
    run.1.success = true ∧ run'.1 = run.1 ∧ run'.2.calls = run.2.calls ∧
      ∃ saved, run.2.storage.sessionRow? "ann" "eve" = some saved ∧
        saved.context = Session.contextJson [("name", "Eve")] := by
  intro run run'
  let world : World Unit :=
    { storage := strandedIn (some "gone"), gateway := { name := "test", medium := () } }
  have success : (greetingIn (some "gone")).1.success = true := by decide +kernel
  have strays : world.storage.Strays
      { id := "1", botId := "ann", senderId := "eve", currentBlockId := some "gone",
        context := [("name", "Eve")] } := by
    refine ⟨fun blockId inside => ?_, fun nodeId inside => by cases inside⟩
    cases inside
    rfl
  have same : SameBut [.sessions] world.storage (strandedIn none) := rfl
  obtain ⟨results, calls, _, _, saved, _, stored, _, succeeded, _⟩ :=
    stale_pointers_are_transparent (fun _ _ _ medium => { medium }) {} { id := "ann" }
      { senderId := "eve", text := "hi" } same rfl trivial trivial rfl rfl strays rfl rfl rfl rfl rfl
  exact ⟨success, results, calls, saved, stored, (succeeded success).2⟩

end Turn

end Parley
