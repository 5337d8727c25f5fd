import Parley.Proofs.Text.Cleaning
import Parley.Proofs.Turn.Beginning
import Parley.Proofs.Turn.History

/-!
Variables: every one that a stored session has was cleaned when it was set, so what holds of all
cleaned replies holds of all values that a history brings into the store. None of them could act as a
template or as markup.
-/

namespace Parley

open Schema
open SessionRow (presentOr)
open Storage (Part Becomes)

variable {σ : Type}

/-! ### Variables of sessions -/

section

variable {good : String → Prop}

def Context.Holds (good : String → Prop) (context : Context) : Prop := ∀ entry ∈ context, good entry.2

theorem Context.mem_set {name value : String} {context : Context} {entry : String × String}
    (member : entry ∈ context.set name value) : entry ∈ context ∨ entry.2 = value := by
  induction context with
  | nil =>
    rw [Context.set, List.mem_singleton] at member
    exact Or.inr (congrArg Prod.snd member)
  | cons first rest ih =>
    obtain ⟨key, old⟩ := first
    rw [Context.set] at member
    split at member
    · rcases List.mem_cons.mp member with new | kept
      · exact Or.inr (congrArg Prod.snd new)
      · exact Or.inl (List.mem_cons_of_mem _ kept)
    · rcases List.mem_cons.mp member with same | later
      · exact Or.inl (List.mem_cons.mpr (Or.inl same))
      · exact (ih later).imp_left (List.mem_cons_of_mem _)

theorem Context.Holds.set {context : Context} (holds : context.Holds good) (name : String)
    {value : String} (new : good value) : (context.set name value).Holds good := by
  intro entry member
  rcases Context.mem_set member with old | rfl
  · exact holds entry old
  · exact new

theorem Context.holds_nil : Context.Holds good [] := fun _ member => nomatch member

def SessionRow.Holds (good : String → Prop) (row : SessionRow) : Prop :=
  ∃ context : Context, row.context = Session.contextJson context ∧ context.Holds good

def Store.Holds (good : String → Prop) (store : Store) : Prop :=
  ∀ row ∈ store.sessionRows, row.Holds good

/-- All stored values are harmless. -/
def Store.Harmless (store : Store) : Prop := store.Holds Reply.Harmless

theorem SessionRow.Holds.of_read {row : SessionRow} {session : Session} (holds : row.Holds good)
    (read : row.toSession = .ok session) : session.context.Holds good := by
  obtain ⟨context, stored, values⟩ := holds
  unfold SessionRow.toSession SessionRow.check at read
  rw [stored, Session.readDictionary_contextJson] at read
  cases index : readInt (presentOr (.int 0) row.currentCardIndex.toJson) <;>
    rw [index] at read <;>
    cases read
  exact values

/-- If all stored values were good, they still are. -/
def Storage.Retains (good : String → Prop) (storage reached : Storage) : Prop :=
  storage.store.Holds good → reached.store.Holds good

instance : IsPreorder Storage (Storage.Retains good) where
  refl _ holds := holds
  trans _ _ _ first second holds := second (first holds)

namespace Storage.Retains

theorem of_sessionRows_eq {storage reached : Storage}
    (same : reached.store.sessionRows = storage.store.sessionRows) :
    Retains good storage reached := by
  intro holds row member
  exact holds row (same ▸ member)

theorem of_becomes {parts : List Part} {storage reached : Storage}
    (becomes : Becomes parts storage reached) (out : .sessions ∉ parts) :
    Retains good storage reached :=
  of_sessionRows_eq (becomes.same.sessionRows out)

end Storage.Retains

open Storage (Retains)

theorem Sql.saveSession_holds {found : Option SessionRow} {session answered : Session}
    {sql written : Sql} (values : session.context.Holds good)
    (done : sql.saveSession found session = .ok (answered, written))
    (holds : (Store.sql sql).Holds good) : (Store.sql written).Holds good := by
  unfold Sql.saveSession at done
  split at done
  · cases done
  · split at done
    · cases done
      intro row member
      rcases Table.mem_update member with kept | ⟨old, _, rfl⟩
      · exact holds row kept
      · exact ⟨session.context, rfl, values⟩
    · dsimp only at done
      split at done
      · cases done
      · cases done
        intro row member
        rcases List.mem_append.mp member with kept | added
        · exact holds row kept
        · rw [List.mem_singleton.mp added]
          exact ⟨session.context, rfl, values⟩

theorem SavesSession.retains {session : Session} {storage reached : Storage}
    {answer : Except Failure Session} (saves : SavesSession session storage (answer, reached))
    (values : session.context.Holds good) : Retains good storage reached := by
  cases saves with
  | failed read => exact Retains.of_becomes read.becomes (by decide)
  | memory content read =>
    intro holds row member
    obtain ⟨stored, kept, rfl⟩ := List.mem_map.mp member
    rcases Table.mem_put kept with kept | rfl
    · rw [content] at holds
      exact holds _ (List.mem_map_of_mem kept)
    · exact ⟨session.context, rfl, values⟩
  | sql content read either shown done =>
    intro holds
    rw [content] at holds
    exact Sql.saveSession_holds values done holds

theorem Within.saveRetains {session : Session} (values : session.context.Holds good) :
    Within (Retains good) (Storage.saveSession session) := fun storage =>
  (Storage.saveSession_saves session storage).retains values

theorem GetsSession.retains {botId senderId : String} {storage reached : Storage}
    {answer : Except Failure Session} (gets : GetsSession botId senderId storage (answer, reached)) :
    Retains good storage reached := by
  cases gets with
  | failed read => exact Retains.of_becomes read.becomes (by decide)
  | found read stored valid => exact Retains.of_becomes read.becomes (by decide)
  | created read absent saves =>
    have looked : Retains good _ _ := .of_becomes read.becomes (by decide)
    exact IsTrans.trans _ _ _ looked (saves.retains Context.holds_nil)

theorem GetsSession.holds {botId senderId : String} {storage reached : Storage}
    {session : Session} (gets : GetsSession botId senderId storage (.ok session, reached))
    (holds : storage.store.Holds good) : session.context.Holds good := by
  cases gets with
  | found read stored valid =>
    exact (holds _ (List.mem_of_find?_eq_some stored)).of_read valid
  | created read absent saves =>
    rw [saves.saved_eq]
    exact Context.holds_nil

end

open Storage (Retains)

namespace Turn

/-! ### How a turn sets variables -/

/-- A turn starts with the variables of its session, one of which may have been set to its
message. -/
def Sets (text : String) (context reached : Context) : Prop :=
  reached = context ∨ ∃ name, reached = context.set name (Reply.clean text)

theorem Sets.holds {good : String → Prop} {text : String} {context reached : Context}
    (sets : Sets text context reached) (clean : good (Reply.clean text))
    (holds : context.Holds good) : reached.Holds good := by
  rcases sets with rfl | ⟨name, rfl⟩
  · exact holds
  · exact holds.set name clean

theorem begin_context {context : Context} {target : Target} {begun : Start}
    (begins : begin context target = .ok begun) : begun.context = context := by
  cases target with
  | block block =>
    cases begins
    rfl
  | flow flow =>
    rw [begin] at begins
    cases first : flow.begin with
    | error failure =>
      rw [first] at begins
      cases begins
    | ok leads =>
      rw [first] at begins
      cases begins
      rfl

theorem resume_sets {flow : Flow} {node : Node} {text : String} {context : Context} :
    Sets text context (flow.resume node text context).2 := by
  unfold Flow.resume
  split
  · rename_i variableName _
    dsimp only
    split
    · exact Or.inl rfl
    · exact Or.inr ⟨variableName, rfl⟩
  · exact Or.inl rfl

section

variable {options : Options} {session : Session} {text : String} {context : Context}
  {begun : Start} {storage reached : Storage}

theorem start_sets
    (run : outcome (start options session text context) storage = (.ok begun, reached)) :
    Sets text context begun.context := by
  cases start_starts run with
  | fresh begins => exact Or.inl (begin_context begins)
  | @card question next leads => exact Or.inr ⟨question.variableName, rfl⟩
  | node flow node => exact resume_sets

end

/-! ### Turns -/

section

variable {good : String → Prop}

theorem receive_retains (bot : Bot) (incoming : Incoming) :
    Within (Retains good) (receive bot incoming) := by
  intro storage
  obtain ⟨middle, gets, books⟩ := receive_gets bot incoming storage
  exact IsTrans.trans _ _ _ gets.retains (Retains.of_becomes books (by decide))

theorem heed_retains (options : Options) (text : String) (session : Session) :
    Within (Retains good) (heed options text session) := by
  rw [heed]
  split
  · exact Within.saveRetains Context.holds_nil
  · exact Within.pure session

theorem ready_retains (options : Options) (bot : Bot) (incoming : Incoming) :
    Within (Retains good) (ready options bot incoming) := by
  apply Within.bind (receive_retains bot incoming)
  intro received
  apply Within.bind (heed_retains options incoming.text received)
  intro session
  refine Within.bind (fun storage => ?_) fun _ => Within.pure _
  exact Retains.of_becomes (Touches.start options session _ _ storage) (by decide)

/-- The values with which a turn starts are good if those stored are and its message is good when it is
cleaned. -/
theorem ready_holds {options : Options} {bot : Bot} {incoming : Incoming}
    {storage reached : Storage} {session : Session} {begun : Start}
    (clean : good (Reply.clean incoming.text)) (holds : storage.store.Holds good)
    (run : outcome (ready options bot incoming) storage = (.ok (session, begun), reached)) :
    begun.context.Holds good := by
  obtain ⟨received, middle, opened, receiving, heeding, starting⟩ := ready_ok run
  obtain ⟨found, getting, _⟩ := receive_ok receiving
  have gets := Session.getOrCreate_gets bot.id incoming.senderId storage
  rw [getting] at gets
  have values := gets.holds holds
  refine (start_sets starting).holds clean ?_
  rw [heed] at heeding
  split at heeding
  · have saves := Storage.saveSession_saves received.reset middle
    rw [Session.forget] at heeding
    rw [heeding] at saves
    rw [saves.saved_eq]
    exact Context.holds_nil
  · cases heeding
    exact values

theorem settle_retains (session : Session) {begun : Start} (values : begun.context.Holds good)
    (plan : Plan) (sent : Nat) : Within (Retains good) (settle session begun plan sent) := by
  refine Within.bind ?_ fun _ => Within.pure _
  rcases park_cases session begun plan with ⟨failure, _, thrown⟩ | ⟨parked, _, saves⟩
  · rw [thrown]
    exact Within.throw failure
  · rw [saves]
    apply Within.saveRetains
    rw [(stopped_kept begun.mode parked begun.context session).2.2]
    exact values

theorem execute_retains (carry : Carrier σ) (options : Options) (bot : Bot) (incoming : Incoming)
    (clean : good (Reply.clean incoming.text)) (world : World σ) :
    Retains good world.storage ((execute carry options bot incoming).run world).2.storage := by
  intro holds
  have opened := ready_retains options bot incoming world.storage holds
  refine execute_related carry (fun _ _ logged => Retains.of_becomes logged (by decide)) ?_ opened
  intro session begun reached ran sent
  exact settle_retains session (ready_holds clean holds ran) _ sent

end

end Turn

/-! ### Histories -/

namespace History

/-- Whether an event leaves it to senders to set variables: it parks no session with variables of
its own. -/
def Event.LeavesVariables : Event σ → Prop
  | .parkInBlock .. => False
  | .parkInFlow .. => False
  | _ => True

theorem happen_retains {good : String → Prop} (clean : ∀ reply, good (Reply.clean reply))
    (world : World σ) {event : Event σ} (leaves : event.LeavesVariables) :
    Retains good world.storage (happen world event).storage := by
  cases event with
  | turn carry options bot incoming =>
    exact Turn.execute_retains carry options bot incoming (clean _) world
  | saveBlock block => exact Retains.of_becomes (Touches.saveBlock block _) (by decide)
  | saveFlow flow => exact Retains.of_becomes (Touches.saveFlow flow _) (by decide)
  | getOrCreate botId senderId => exact (Session.getOrCreate_gets botId senderId _).retains
  | parkInBlock => exact leaves.elim
  | parkInFlow => exact leaves.elim
  | forget session =>
    have values : session.reset.context.Holds good := Context.holds_nil
    exact Within.saveRetains values _
  | change conditions => exact Retains.of_sessionRows_eq rfl

/-- What holds of all replies when they are cleaned holds of all values that are ever stored. -/
theorem run_retains {good : String → Prop} (clean : ∀ reply, good (Reply.clean reply))
    (start : World σ) {events : List (Event σ)} (leave : ∀ event ∈ events, event.LeavesVariables) :
    Retains good start.storage (run start events).storage := by
  induction events generalizing start with
  | nil => exact Std.Refl.refl start.storage
  | cons event rest ih =>
    have first := happen_retains clean start (leave event List.mem_cons_self)
    have later := ih (happen start event) fun other member =>
      leave other (List.mem_cons_of_mem _ member)
    exact IsTrans.trans _ _ _ first later

theorem run_staysHarmless (start : World σ) {events : List (Event σ)}
    (leave : ∀ event ∈ events, event.LeavesVariables) :
    Retains Reply.Harmless start.storage (run start events).storage :=
  run_retains Reply.clean_harmless start leave

/-- Whatever senders write, no value that is stored holds a placeholder, a tag, a control character
that lays out no text, or white space at its ends; and as part of a message it stands for itself,
whatever the variables. -/
theorem stored_values_are_harmless (start : World σ) (empty : start.storage.store.sessionRows = [])
    (events : List (Event σ)) (leave : ∀ event ∈ events, event.LeavesVariables) :
    ∀ row ∈ (run start events).storage.store.sessionRows,
      ∃ context : Context, row.context = Session.contextJson context ∧
        ∀ entry ∈ context, Reply.Harmless entry.2 ∧
          ∀ value? : String → Option String, Template.fill value? entry.2 = entry.2 := by
  have idle : start.storage.store.Harmless := by
    intro row member
    rw [empty] at member
    exact nomatch member
  intro row member
  obtain ⟨context, stored, values⟩ := run_staysHarmless start leave idle row member
  exact ⟨context, stored, fun entry inside =>
    ⟨values entry inside, (values entry inside).fill_eq⟩⟩

def survey : Block where
  id := "survey"
  botId := "bot"
  triggers := ["hi"]
  cards := [{ content := .userInput "" "mood" none }]
  createdAt := ⟨0, none⟩

def trickery : List (Event Unit) :=
  let write (text : String) : Event Unit :=
    .turn (fun _ _ _ medium => { medium }) {} { id := "bot" } { senderId := "eve", text }
  [.saveBlock survey, write "hi", write "<b>{{{token}}}</b>"]

theorem trickery_is_harmless :
    untouched.storage.store.sessionRows = [] ∧ (∀ event ∈ trickery, event.LeavesVariables) ∧
      ∀ row ∈ (run untouched trickery).storage.store.sessionRows,
        ∃ context : Context, row.context = Session.contextJson context ∧
          ∀ entry ∈ context, Reply.Harmless entry.2 ∧
            ∀ value? : String → Option String, Template.fill value? entry.2 = entry.2 := by
  have empty : untouched.storage.store.sessionRows = [] := rfl
  have leave : ∀ event ∈ trickery, event.LeavesVariables := by
    simp [trickery, Event.LeavesVariables]
  exact ⟨empty, leave, stored_values_are_harmless untouched empty trickery leave⟩

end History

end Parley
