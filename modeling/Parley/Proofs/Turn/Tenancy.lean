import Parley.Proofs.Engine.Belonging
import Parley.Proofs.Storage.Privacy
import Parley.Proofs.Turn.Beginning
import Parley.Proofs.Turn.Showing

/-!
The phases of a turn keep to the records of its bot: receiving the message, choosing where to start, and
saving where the turn ends.
-/

namespace Parley

variable {α β : Type} {tenant : Tenant} {pre : Prop} {P : α → Prop}

/-! ### What a bot finds -/

theorem Tenant.Guards.findBlock {storage : Storage} (guards : tenant.Guards storage) :
    (storage.own tenant.botId).findBlock tenant.botId = storage.findBlock tenant.botId := by
  funext blockId
  have exclusive := guards.exclusive
  rw [Storage.findBlock_eq, Storage.findBlock_eq, Storage.own_store]
  cases content : storage.store with
  | memory memory =>
    rw [content] at exclusive
    simp only [Store.own_memory, memory.block?_own exclusive, Storage.own]
  | sql sql =>
    rw [content] at exclusive
    simp only [Store.own_sql, sql.block?_own exclusive, Storage.own]

theorem ConfinedAt.rewrite {storage : Storage} {action alone alone' : StoreM α}
    (confined : ConfinedAt tenant pre P storage action alone)
    (same : tenant.Guards storage → alone' = alone) :
    ConfinedAt tenant pre P storage action alone' where
  later := confined.later
  runs holds guards bound := by
    rw [same guards]
    exact confined.runs holds guards bound

namespace KeepsTo

theorem bind {Q : β → Prop} {action : StoreM α} {next : α → StoreM β}
    (first : KeepsTo tenant pre P action)
    (rest : ∀ value, KeepsTo tenant (P value ∧ pre) Q (next value)) :
    KeepsTo tenant pre Q (action >>= next) := fun storage =>
  ConfinedAt.bind (first storage) fun value reached _ => rest value reached

theorem pure {value : α} (answer : pre → P value) : KeepsTo tenant pre P (Pure.pure value) :=
  fun _ => .pure fun holds _ => answer holds

theorem mono {P' : α → Prop} {pre' : Prop} {action : StoreM α} (keeps : KeepsTo tenant pre P action)
    (before : pre' → pre) (after : ∀ value, P value → P' value) : KeepsTo tenant pre' P' action :=
  fun storage => (keeps storage).mono before after

theorem freshId : KeepsTo tenant pre (fun id => tenant.others.Free id)
    (Storage.draw Source.freshId) :=
  draw Source.freshId_issues fun source free => free source.issued (Nat.le_refl _) (Nat.lt_succ_self _)

/-! ### Receiving a message -/

theorem newSession (senderId : String) : KeepsTo tenant pre tenant.Owns
    (Storage.draw (Source.newSession tenant.botId senderId)) :=
  draw (Source.newSession_issues _ _) fun source free =>
    ⟨rfl, (free source.issued (Nat.le_refl _) (Nat.lt_succ_self _)).session⟩

theorem getOrCreate (senderId : String) :
    KeepsTo tenant pre tenant.Owns (Session.getOrCreate tenant.botId senderId) := by
  apply bind (getSession senderId)
  intro found
  cases found with
  | some session => exact pure fun holds => holds.1 session rfl
  | none => exact bind (newSession senderId) fun session =>
      (saveSession session).mono And.left fun _ owns => owns

theorem today : KeepsTo tenant pre (fun _ => True) (Storage.draw Source.today) :=
  draw Source.today_issues fun _ _ => trivial

theorem recordVisit (senderId : String) (profile : Storage.Profile) :
    KeepsTo tenant pre (fun _ => True)
      (Bookkeeping.recordVisit tenant.botId senderId profile) := by
  apply bind (getContact senderId)
  intro previous
  apply bind (upsertContact senderId profile)
  intro contact
  cases previous with
  | none => exact pure fun _ => trivial
  | some previous => exact bind today fun _ => pure fun _ => trivial

theorem addMessage (senderId content : String) (direction : Direction) (messageType : String) :
    KeepsTo tenant pre (fun _ => True)
      (Bookkeeping.addMessage tenant.botId senderId content direction messageType) := by
  apply bind freshId
  intro id
  apply bind now
  intro timestamp
  exact (addEntry _).mono (fun holds => ⟨rfl, holds.2.1.entry⟩) fun _ _ => trivial

theorem recordMessage (senderId content : String) (direction : Direction) (messageType : String)
    (newUser : Bool) :
    KeepsTo tenant pre (fun _ => True) (Bookkeeping.recordMessage tenant.botId senderId content
      direction messageType newUser) := by
  apply bind (addMessage senderId content direction messageType)
  intro _
  apply bind today
  intro day
  exact bind (bumpCount day direction newUser) fun _ => pure fun _ => trivial

end KeepsTo

namespace Turn

variable {bot : Bot} {options : Options}

theorem receive_eq (bot : Bot) (incoming : Incoming) :
    receive bot incoming = (do
      let session ← Session.getOrCreate bot.id incoming.senderId
      let visit ← (monadLift (Bookkeeping.attempt
        (Bookkeeping.recordVisit bot.id incoming.senderId incoming.profile)) : StoreM (Option Visit))
      let _ ← (monadLift (Bookkeeping.attempt (Bookkeeping.recordMessage bot.id incoming.senderId
        incoming.text .incoming "text" ((visit.map (·.firstToday)).getD false))) :
          StoreM (Option Unit))
      return session) := rfl

theorem keeps_receive (mine : bot.id = tenant.botId) (incoming : Incoming) :
    KeepsTo tenant pre tenant.Owns (receive bot incoming) := by
  rw [receive_eq, mine]
  apply KeepsTo.bind (.getOrCreate incoming.senderId)
  intro session
  apply KeepsTo.bind (.attempt (.recordVisit incoming.senderId incoming.profile))
  intro visit
  apply KeepsTo.bind (.attempt (.recordMessage incoming.senderId incoming.text .incoming "text" _))
  intro _
  exact .pure fun holds => holds.2.2.1

theorem keeps_heed (text : String) (session : Session) :
    KeepsTo tenant (tenant.Owns session) tenant.Owns (heed options text session) := by
  rw [heed]
  split
  · exact KeepsTo.saveSession session.reset
  · exact .pure fun owns => owns

/-! ### Choosing a start -/

/-- A search for the default answer ends with a block of a bot. -/
def Answers (botId : String) (state : Bootstrap) : Prop :=
  ∀ created block, state = .finished created (some block) → block.botId = botId

/-- A draw makes a block of a bot under an id that it issues. -/
structure Makes (botId : String) (make : Draw Block) : Prop where
  issues : Source.Issues make
  new : ∀ source, source.issued < (make.run source).2.issued
  owner : ∀ source, (make.run source).1.botId = botId
  id : ∀ source, (make.run source).1.id = Source.idOf source.issued

theorem makes_welcome (options : Options) (botId : String) :
    Makes botId (Bootstrap.welcomeBlock options botId) :=
  ⟨Bootstrap.welcomeBlock_issues options botId, fun source => Nat.lt_succ_self source.issued,
    fun _ => rfl, fun _ => rfl⟩

theorem makes_answer (options : Options) (botId : String) :
    Makes botId (Bootstrap.answerBlock options botId) :=
  ⟨Bootstrap.answerBlock_issues options botId, fun source => Nat.lt_succ_self source.issued,
    fun _ => rfl, fun _ => rfl⟩

theorem keeps_madeBlock {make : Draw Block} (makes : Makes tenant.botId make) :
    KeepsTo tenant pre (fun block => block.botId = tenant.botId ∧
      block.id ∉ tenant.others.blockIds) (Storage.draw make) := by
  apply KeepsTo.draw makes.issues
  intro source free
  rw [makes.id]
  exact ⟨makes.owner source, (free source.issued (Nat.le_refl _) (makes.new source)).block⟩

theorem keeps_bootstrapStep (state : Bootstrap) :
    KeepsTo tenant (Answers tenant.botId state) (Answers tenant.botId)
      (Bootstrap.step options tenant.botId state) := by
  have unanswered {state : Bootstrap} (open_ : ∀ created block, state ≠ .finished created (some block)) :
      Answers tenant.botId state := fun created block same => absurd same (open_ created block)
  cases state with
  | findAnswer =>
    apply KeepsTo.bind (.findFlagged _)
    intro found
    cases found with
    | some blockId => exact .pure fun _ => unanswered (by simp)
    | none => exact .pure fun _ => unanswered (by cases options.bootstrap <;> simp)
  | loadAnswer blockId =>
    apply KeepsTo.bind (.getBlock blockId)
    intro found
    refine .pure fun holds created block same => ?_
    cases same
    exact holds.1 block rfl
  | findWelcome =>
    apply KeepsTo.bind (.findFlagged _)
    intro found
    cases found <;> exact .pure fun _ => unanswered (by simp)
  | saveWelcome =>
    apply KeepsTo.bind (keeps_madeBlock (makes_welcome options tenant.botId))
    intro block
    exact .bind ((KeepsTo.saveBlock block).mono And.left fun _ holds => holds)
      fun _ => .pure fun _ => unanswered (by simp)
  | findAnswerAgain created =>
    apply KeepsTo.bind (.findFlagged _)
    intro found
    cases found <;> exact .pure fun _ => unanswered (by simp)
  | saveAnswer created =>
    apply KeepsTo.bind (keeps_madeBlock (makes_answer options tenant.botId))
    intro block
    refine .bind ((KeepsTo.saveBlock block).mono And.left fun _ holds => holds)
      fun _ => .pure fun holds _ made same => ?_
    cases same
    exact holds.2.1.1
  | finished created answer => exact .pure fun holds => holds

theorem keeps_bootstrap (requests : Nat) (state : Bootstrap) :
    KeepsTo tenant (Answers tenant.botId state) (Answers tenant.botId)
      (Bootstrap.run options tenant.botId requests state) := by
  induction requests generalizing state with
  | zero => exact .pure fun holds => holds
  | succ requests ih =>
    exact .bind (keeps_bootstrapStep state) fun next => (ih next).mono And.left fun _ holds => holds

theorem keeps_defaultAnswer :
    KeepsTo tenant pre (fun found => ∀ block ∈ found, block.botId = tenant.botId)
      (Bootstrap.defaultAnswer options tenant.botId) := by
  refine .bind ((keeps_bootstrap _ _).mono (fun _ created block same => ?_) fun _ holds => holds) ?_
  · cases same
  · intro state
    cases state with
    | finished created answer =>
      refine .pure fun holds block found => ?_
      obtain ⟨rfl, _⟩ := Option.filter_eq_some_iff.mp found
      exact holds.1 created block rfl
    | findAnswer | loadAnswer | findWelcome | saveWelcome | findAnswerAgain | saveAnswer =>
      exact .pure fun _ block found => by cases found

/-- A block that a message is resolved to is one of a bot. -/
def Target.Of (botId : String) : Target → Prop
  | .block chosen => chosen.botId = botId
  | .flow _ => True

variable {session : Session}

theorem keeps_ofPayload (text : String) :
    KeepsTo tenant pre (fun found => ∀ block ∈ found, block.botId = tenant.botId)
      (Resolution.ofPayload tenant.botId text) := by
  rw [Resolution.ofPayload]
  split
  · refine .bind (.getBlock _) fun found => .pure fun holds block here => ?_
    exact holds.1 block (Option.filter_eq_some_iff.mp here).1
  · exact .pure fun _ block here => by cases here

theorem keeps_ofTrigger (text : String) :
    KeepsTo tenant pre (fun found => ∀ block ∈ found, block.botId = tenant.botId)
      (Resolution.ofTrigger tenant.botId text) := by
  refine .bind (.listBlocks true) fun listed => .pure fun holds block here => ?_
  exact holds.1 block (List.mem_of_find?_eq_some here)

theorem keeps_explicit (mine : session.botId = tenant.botId) (text : String) :
    KeepsTo tenant pre (fun found => ∀ resolution ∈ found, Target.Of tenant.botId resolution.target)
      (Resolution.explicit session text) := by
  rw [Resolution.explicit, mine]
  split
  · exact .pure fun _ resolution here => by cases here
  · apply KeepsTo.bind (keeps_ofPayload text)
    intro named
    cases named with
    | some block =>
      refine .pure fun holds resolution here => ?_
      cases here
      exact holds.1 block rfl
    | none =>
      apply KeepsTo.bind (keeps_ofTrigger text)
      intro triggered
      cases triggered with
      | some block =>
        refine .pure fun holds resolution here => ?_
        cases here
        exact holds.1 block rfl
      | none => exact .pure fun _ resolution here => by cases here

theorem keeps_fallback (mine : session.botId = tenant.botId) (text : String) :
    KeepsTo tenant pre (fun found => ∀ resolution ∈ found, Target.Of tenant.botId resolution.target)
      (Resolution.fallback options session text) := by
  rw [Resolution.fallback, mine]
  split
  · exact .pure fun _ resolution here => by cases here
  · apply KeepsTo.bind keeps_defaultAnswer
    intro answer
    cases answer with
    | some block =>
      refine .pure fun holds resolution here => ?_
      cases here
      exact holds.1 block rfl
    | none =>
      refine .bind (.listFlows true) fun flows => .pure fun _ resolution here => ?_
      obtain ⟨flow, _, target⟩ := ofFlows_mem here
      rw [target]
      trivial

/-- A turn starts in a block of a bot, if it starts in a block. -/
def Start.Of (botId : String) (begun : Start) : Prop := begun.transition.Of botId

theorem keeps_begin {resolution : Resolution} (context : Context) :
    KeepsTo tenant (Target.Of tenant.botId resolution.target) (Start.Of tenant.botId)
      (Storage.ofExcept (begin context resolution.target)) := by
  intro storage
  apply ConfinedAt.ofExcept
  intro begun starts mine
  cases target : resolution.target with
  | block chosen =>
    rw [target] at starts mine
    cases starts
    exact mine
  | flow chosen =>
    rw [target] at starts
    obtain ⟨node, -, rfl⟩ := begin_flow starts
    trivial

theorem keeps_resumeOutside (mine : session.botId = tenant.botId) (text : String)
    (context : Context) :
    KeepsTo tenant pre (fun resumed => ∀ answered ∈ resumed, answered.1.Of tenant.botId)
      (resumeOutside session text context) := by
  have parked : KeepsTo tenant pre (fun _ => True) session.parkedFlow := by
    rw [Session.parkedFlow, mine]
    split
    · exact .getFlow _
    · exact .bind (.listFlows true) fun _ => .pure fun _ => trivial
  rw [resumeOutside]
  split
  · apply KeepsTo.bind parked
    intro found
    cases found with
    | none => exact .pure fun _ answered here => by cases here
    | some flow =>
      dsimp only
      split
      · exact .pure fun _ answered here => by cases here
      · rename_i node _
        refine .pure fun _ answered here => ?_
        cases here
        unfold Flow.resume
        split
        · exact flow.follow_of node
        · trivial
  · exact .pure fun _ answered here => by cases here

theorem keeps_startOutside (mine : session.botId = tenant.botId) (text : String) (context : Context) :
    KeepsTo tenant pre (Start.Of tenant.botId) (startOutside options session text context) := by
  apply KeepsTo.bind (keeps_explicit mine text)
  intro asked
  cases asked with
  | some resolution =>
    exact (keeps_begin context).mono (fun holds => holds.1 resolution rfl) fun _ of => of
  | none =>
    apply KeepsTo.bind (keeps_resumeOutside mine text context)
    intro resumed
    cases resumed with
    | some answered =>
      obtain ⟨next, context⟩ := answered
      exact .pure fun holds => holds.1 (next, context) rfl
    | none =>
      apply KeepsTo.bind (keeps_fallback mine text)
      intro found
      cases found with
      | some resolution =>
        exact (keeps_begin context).mono (fun holds => holds.1 resolution rfl) fun _ of => of
      | none => exact fun _ => .throw _

theorem keeps_start (mine : session.botId = tenant.botId) (text : String) (context : Context) :
    KeepsTo tenant pre (Start.Of tenant.botId) (start options session text context) := by
  rw [start]
  split
  · intro storage
    apply ConfinedAt.get
    have faithful := Storage.findBlock_faithful storage
    have resumed : ConfinedAt tenant pre
        (fun resumed => ∀ answered ∈ resumed, answered.1.Of tenant.botId) storage
        (Storage.ofExcept (session.resumeBlock storage.findBlock text context))
        (Storage.ofExcept (session.resumeBlock storage.findBlock text context)) := by
      apply ConfinedAt.ofExcept
      intro found resumes _ answered here
      cases here
      rw [← mine]
      exact Session.resumeBlock_of faithful resumes
    -- the bot is answered alike when it looks up where its question leads
    have same (guards : tenant.Guards storage) :
        (storage.own tenant.botId).findBlock session.botId = storage.findBlock session.botId := by
      rw [mine]
      exact guards.findBlock
    have resumed := resumed.rewrite fun guards =>
      congrArg Storage.ofExcept (Session.resumeBlock_same (same guards) faithful text)
    apply ConfinedAt.bind resumed
    intro found reached _
    cases found with
    | some answered =>
      obtain ⟨next, context⟩ := answered
      exact .pure fun holds _ => holds.1 (next, context) rfl
    | none =>
      have outside : session.outside.botId = tenant.botId := mine
      exact keeps_startOutside outside text context reached
  · exact keeps_startOutside mine text context

theorem keeps_ready (mine : bot.id = tenant.botId) (incoming : Incoming) :
    KeepsTo tenant pre
      (fun opened => tenant.Owns opened.1 ∧ opened.2.Of tenant.botId)
      (ready options bot incoming) := by
  apply KeepsTo.bind (keeps_receive mine incoming)
  intro received
  apply KeepsTo.bind ((keeps_heed incoming.text received).mono And.left fun _ owns => owns)
  intro session
  refine KeepsTo.bind (P := Start.Of tenant.botId) (.mono (P := Start.Of tenant.botId)
    (.assuming (Touches.start options session incoming.text session.context)
      fun owns => keeps_start owns.1 incoming.text session.context) And.left fun _ of => of) ?_
  intro begun
  exact .pure fun holds => ⟨holds.2.1, holds.1⟩

/-! ### Ending a turn -/

theorem stopped_id (mode : Session.Mode) (parked : Option Cursor) (context : Context)
    (session : Session) : (stopped mode parked context session).id = session.id := by
  rcases parked with _ | ⟨block, index⟩ | ⟨flow, node⟩
  · cases mode <;> rfl
  · rfl
  · rfl

theorem keeps_settle (begun : Start) (plan : Plan) (sent : Nat) :
    KeepsTo tenant (tenant.Owns session) (fun _ => True) (settle session begun plan sent) := by
  refine .bind (P := fun _ => True) ?_ fun _ => .pure fun _ => trivial
  rcases park_cases session begun plan with ⟨failure, _, thrown⟩ | ⟨parked, _, saves⟩
  · rw [thrown]
    exact fun _ => .throw failure
  · rw [saves]
    refine (KeepsTo.saveSession _).mono (fun owns => ?_) fun _ _ => trivial
    have kept := stopped_kept begun.mode parked begun.context session
    exact ⟨kept.1.trans owns.1, (stopped_id _ _ _ session).symm ▸ owns.2⟩

end Turn

end Parley
