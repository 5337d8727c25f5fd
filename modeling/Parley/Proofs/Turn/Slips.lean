import Parley.Proofs.Engine.Sends
import Parley.Proofs.Text.Cleaning
import Parley.Proofs.Turn.Bounds

/-!
Which turns hand a message to the gateway that says nothing. The prompts of questions and what is said
when a turn fails are never empty, and other texts are only if all of their variables are.
-/

namespace Parley

/-! ### Empty variables -/

theorem Context.mem_of_get? {context : Context} {name value : String}
    (known : context.get? name = some value) : (name, value) ∈ context := by
  induction context with
  | nil => cases known
  | cons entry rest ih =>
    obtain ⟨key, other⟩ := entry
    rw [Context.get?] at known
    split at known
    · rename_i same
      cases known
      exact same ▸ List.mem_cons_self
    · exact List.mem_cons_of_mem _ (ih known)

def Context.Filled (context : Context) : Prop := ∀ entry ∈ context, entry.2 ≠ ""

theorem Context.Filled.fill_ne_empty {context : Context} (filled : context.Filled) {text : String}
    (said : text ≠ "") : context.fill text ≠ "" := by
  intro empty
  obtain ⟨names, spelled, each⟩ := Template.fill_eq_empty_iff.mp empty
  cases names with
  | nil => exact said (String.toList_eq_nil_iff.mp spelled)
  | cons name rest =>
    have known := (each name List.mem_cons_self).2.2
    exact filled _ (Context.mem_of_get? known) rfl

theorem Context.Filled.picture {context : Context} (filled : context.Filled) (picture : Picture) :
    picture.slips context = false := by
  cases caption : nonEmpty picture.caption with
  | none => simp [Picture.slips, caption]
  | some text =>
    have said : text ≠ "" := by simpa using (Option.filter_eq_some_iff.mp caption).2
    simp [Picture.slips, caption, filled.fill_ne_empty said]

/-- If no variable is empty, only those cards slip that offer quick replies and have none. -/
theorem Context.Filled.slips {context : Context} (filled : context.Filled) {place : Cursor}
    (slips : place.slips context = true) :
    ∃ block index card text, place = .card block index ∧ block.card? index = some card ∧
      card.content = .quickReply text [] := by
  cases place with
  | card block index =>
    obtain ⟨card, at_, slip⟩ := (Option.any_eq_true _ _).mp slips
    cases content : card.content with
    | quickReply text buttons =>
      have bare : buttons = [] := by
        simp only [content, CardContent.slips, Bool.and_eq_true, List.isEmpty_iff] at slip
        exact slip.2
      exact ⟨block, index, card, text, rfl, at_, by rw [content, bare]⟩
    | image picture =>
      rw [content] at slip
      exact absurd slip (by simp [CardContent.slips, filled.picture])
    | text | gallery | userInput | delay | goToBlock =>
      rw [content] at slip
      cases slip
  | node flow node =>
    cases content : node.content with
    | text message =>
      simp only [Cursor.slips, content, NodeContent.slips, Bool.and_eq_true, decide_eq_true_eq] at slips
      exact absurd slips.2 (filled.fill_ne_empty slips.1)
    | quickReply message buttons =>
      simp only [Cursor.slips, content, NodeContent.slips, Bool.and_eq_true, decide_eq_true_eq] at slips
      exact absurd slips.2 (filled.fill_ne_empty slips.1.1)
    | image picture => simp [Cursor.slips, content, NodeContent.slips, filled.picture] at slips
    | start | card | userInput | condition | delay | finish =>
      simp [Cursor.slips, content, NodeContent.slips] at slips

theorem Plan.Follows.first {find : FindBlock} {context : Context} {budget paid left : Budget}
    {place : Cursor} {taken : Step} {plan : Plan} {trail : List Taken} {last : Transition}
    (follows : Plan.Follows find context budget (.goto place) plan trail left last)
    (charged : budget.charge place.entered = .ok paid)
    (stepped : Plan.step find context place = .ok taken) : ∃ rest, trail = ⟨place, taken⟩ :: rest := by
  cases follows.spends with
  | rest =>
    obtain ⟨failure, _, refused | stuck⟩ := follows.ends.goto_failed
    · cases refused.symm.trans charged
    · cases stuck.symm.trans stepped
  | step _ again _ =>
    cases stepped.symm.trans again
    exact ⟨_, rfl⟩

theorem Plan.Follows.hollow {find : FindBlock} {context : Context} {budget left : Budget}
    {start last : Transition} {plan : Plan} {trail : List Taken}
    (follows : Plan.Follows find context budget start plan trail left last) :
    plan.effects.countP (·.isHollow) = trail.countP (·.place.slips context) := by
  rw [follows.effects, follows.spends.walk.hollow]

/-! ### Turns -/

def Outbound.isHollow : Outbound → Bool
  | .message shown => shown.isHollow
  | .typing _ => false
  | .value .typing _ => false
  | .value _ given => !given.isPresent

def Call.isHollow (call : Call) : Bool := call.outbound.isHollow

theorem shown_hollow (effect : Effect) :
    effect.shown.countP (·.isHollow) = effect.isHollow.toNat := by
  cases effect with
  | send message =>
    cases hollow : message.isHollow <;>
      simp [Effect.shown, Effect.isHollow, Outbound.isHollow, hollow]
  | wait pause =>
    cases shows : pause.showTyping <;> simp [Effect.shown, shows, Outbound.isHollow, Effect.isHollow]

theorem all_shown_hollow (effects : List Effect) :
    (effects.flatMap (·.shown)).countP (·.isHollow) = effects.countP (·.isHollow) := by
  induction effects with
  | nil => rfl
  | cons effect rest ih =>
    rw [List.flatMap_cons, List.countP_append, shown_hollow, ih, List.countP_cons, Nat.add_comm]
    cases effect.isHollow <;> rfl

namespace Turn

variable {σ : Type} {options : Options} {bot : Bot} {incoming : Incoming} {world : World σ}
  {session : Session} {begun : Start} {reached : Storage}

theorem reply_speaks {value : Json} {recipientId : String} {world reached : World σ}
    (replies : Replies bot recipientId value world reached) :
    ∃ replied, reached.calls = world.calls ++ replied ∧ replied.countP (·.isHollow) = 0 := by
  cases present : value.isPresent with
  | false => exact ⟨[], by rw [replies.silent present, List.append_nil], rfl⟩
  | true =>
    obtain ⟨call, calls, request⟩ := replies.spoken present
    refine ⟨[call], calls, ?_⟩
    have shown : call.outbound = said value := congrArg (·.2.2) request
    have speaks : (said value).isHollow = false := by
      cases value with
      | str text => simpa [said, Outbound.isHollow, Message.isHollow, Json.isPresent] using present
      | null | bool | int | float | arr | obj => simp [said, Outbound.isHollow, present]
    simp [Call.isHollow, shown, speaks]

theorem attempt_hollow (carry : Carrier σ)
    (opened : outcome (ready options bot incoming) world.storage = (.ok (session, begun), reached)) :
    ∃ made, (outcome (attempt carry options bot incoming) world).2.calls = world.calls ++ made ∧
      made.countP (·.isHollow) = (planFrom options reached begun).effects.countP (·.isHollow) := by
  obtain ⟨made, _, performs⟩ := performAll_performs carry bot session.senderId options
    (planFrom options reached begun).effects { world with storage := reached }
  refine ⟨made, ?_, ?_⟩
  · rw [attempt_of_ready carry options bot incoming opened]
    exact performs.calls
  · rw [← all_shown_hollow]
    exact countP_requested (·.isHollow) performs.requests

theorem execute_replies (carry : Carrier σ) (options : Options) (bot : Bot) (incoming : Incoming)
    (world : World σ) :
    ∃ replied, ((execute carry options bot incoming).run world).2.calls =
        (outcome (attempt carry options bot incoming) world).2.calls ++ replied ∧
      replied.countP (·.isHollow) = 0 := by
  rw [execute_run]
  rcases outcome (attempt carry options bot incoming) world with ⟨answer, tried⟩
  cases answer with
  | ok result => exact ⟨[], (List.append_nil _).symm, rfl⟩
  | error failure =>
    exact reply_speaks (reply_replies carry bot incoming.senderId (answerTo options failure) tried)

/-- Whatever a turn says that is hollow, its plan says. -/
theorem execute_hollow (carry : Carrier σ)
    (opened : outcome (ready options bot incoming) world.storage = (.ok (session, begun), reached)) :
    ∃ made replied, ((execute carry options bot incoming).run world).2.calls =
        world.calls ++ made ++ replied ∧
      replied.countP (·.isHollow) = 0 ∧
      made.countP (·.isHollow) = (planFrom options reached begun).effects.countP (·.isHollow) := by
  obtain ⟨replied, calls, speaks⟩ := execute_replies carry options bot incoming world
  obtain ⟨made, sent, hollow⟩ := attempt_hollow carry opened
  rw [sent] at calls
  exact ⟨made, replied, calls, speaks, hollow⟩

/-- A turn hands over one hollow message for each slip on its way and no other, and what it says when
it fails is none. If no variable is empty, the slips are cards that offer quick replies and have none. -/
theorem hollow_messages_are_slips (carry : Carrier σ) (options : Options) (bot : Bot)
    (incoming : Incoming) (world : World σ) :
    let after := ((execute carry options bot incoming).run world).2
    (∀ failure reached,
      outcome (ready options bot incoming) world.storage = (.error failure, reached) →
      ∃ replied, after.calls = world.calls ++ replied ∧ replied.countP (·.isHollow) = 0) ∧
    ∀ session begun reached,
      outcome (ready options bot incoming) world.storage = (.ok (session, begun), reached) →
      let Follows := (planFrom options reached begun).Follows reached.findBlock begun.context
        options.budget begun.transition
      ∃ made replied, after.calls = world.calls ++ made ++ replied ∧
        replied.countP (·.isHollow) = 0 ∧ (∃ trail left last, Follows trail left last) ∧
        ∀ trail left last, Follows trail left last →
          made.countP (·.isHollow) = trail.countP (·.place.slips begun.context) ∧
            (begun.context.Filled → ∀ taken ∈ trail, taken.place.slips begun.context = true →
              ∃ block index card text, taken.place = .card block index ∧
                block.card? index = some card ∧ card.content = .quickReply text []) := by
  intro after
  constructor
  · intro failure reached opened
    obtain ⟨replied, calls, speaks⟩ := execute_replies carry options bot incoming world
    rw [attempt_of_unready carry options bot incoming opened] at calls
    exact ⟨replied, calls, speaks⟩
  · intro session begun reached opened Follows
    obtain ⟨made, replied, calls, speaks, hollow⟩ := execute_hollow carry opened
    obtain ⟨trail, left, last, follows, _⟩ := planFrom_follows options reached begun
    refine ⟨made, replied, calls, speaks, ⟨trail, left, last, follows⟩, ?_⟩
    intro trail left last follows
    exact ⟨hollow.trans follows.hollow, fun filled taken _ slips => filled.slips slips⟩

theorem exists_hollow {made : List Call} {taken : Taken} {rest : List Taken} {context : Context}
    (hollow : made.countP (·.isHollow) = (taken :: rest).countP (·.place.slips context))
    (slips : taken.place.slips context = true) : ∃ call ∈ made, call.isHollow = true := by
  rw [← List.countP_pos_iff, hollow, List.countP_pos_iff]
  exact ⟨taken, List.mem_cons_self, slips⟩

def salute : Node := { id := "greet", content := .text "\x7b\x7bname\x7d\x7d" }

def meet : Flow where
  id := "meet"
  botId := "bot"
  nodes := [{ id := "ask", content := .userInput "" "name" }, salute]
  edges := [{ source := "ask", target := "greet" }]
  createdAt := ⟨0, none⟩

def meeting : World Unit where
  storage :=
    { store := .memory
        { sessions := [{ id := "1", botId := "bot", senderId := "ada", currentFlowId := some "meet"
                         currentNodeId := some "ask" }]
          flows := [meet] }
      source := { micros := 0 } }
  gateway := { name := "test", medium := () }

def nameless : Start where
  mode := .graph
  transition := .goto (.node meet salute)
  context := [("name", Reply.clean "<b></b>")]

theorem meeting_ready : ∃ session reached,
    outcome (ready {} { id := "bot" } { senderId := "ada", text := "<b></b>" }) meeting.storage =
      (.ok (session, nameless), reached) := ⟨_, _, rfl⟩

theorem salute_slips : (Cursor.node meet salute).slips nameless.context = true := by
  have cleaned : Reply.clean "<b></b>" = "" := by decide +kernel
  have vanishes : nameless.context.fill "\x7b\x7bname\x7d\x7d" = "" := by
    rw [nameless, cleaned]
    decide +kernel
  simp [Cursor.slips, salute, NodeContent.slips, vanishes]

/-- Nothing is left of a reply that was only markup, and the sender is greeted with it. -/
theorem nobody_is_greeted : ∃ call ∈ ((execute (fun _ _ _ medium => { medium }) {} { id := "bot" }
    { senderId := "ada", text := "<b></b>" }).run meeting).2.calls, call.isHollow = true := by
  obtain ⟨session, reached, opened⟩ := meeting_ready
  obtain ⟨made, replied, calls, _, ⟨trail, left, last, follows⟩, slips⟩ :=
    (hollow_messages_are_slips (fun _ _ _ medium => { medium }) {} { id := "bot" }
      { senderId := "ada", text := "<b></b>" } meeting).2 _ _ _ opened
  obtain ⟨rest, rfl⟩ := follows.first rfl rfl
  obtain ⟨call, member, empty⟩ := exists_hollow (slips _ _ _ follows).1 salute_slips
  exact ⟨call, by rw [calls]; simp [member], empty⟩

/-- A block that offers quick replies and has none. -/
def shrug : Block where
  id := "shrug"
  botId := "bot"
  triggers := ["hi"]
  cards := [⟨none, .quickReply "Pick one." []⟩]
  createdAt := ⟨0, none⟩

def shrugging : World Unit where
  storage := { store := .memory { blocks := [shrug] }, source := { micros := 0 } }
  gateway := { name := "test", medium := () }

def shrugged : Start where
  mode := .block
  transition := .goto (.card shrug 0)
  context := []

theorem shrugging_ready : ∃ session reached,
    outcome (ready {} { id := "bot" } { senderId := "ada", text := "hi" }) shrugging.storage =
      (.ok (session, shrugged), reached) := ⟨_, _, rfl⟩

/-- Quick replies are sent without a button, whatever the variables are. -/
theorem nothing_to_pick_from :
    ¬ ∀ (carry : Carrier Unit) (options : Options) (bot : Bot) (incoming : Incoming)
        (world : World Unit), world.calls = [] →
      ∀ call ∈ ((execute carry options bot incoming).run world).2.calls, call.isHollow = false := by
  intro speaks
  obtain ⟨session, reached, opened⟩ := shrugging_ready
  obtain ⟨made, replied, calls, _, hollow⟩ := execute_hollow (fun _ _ _ medium => { medium }) opened
  obtain ⟨trail, left, last, follows, _⟩ := planFrom_follows {} reached shrugged
  have at_ : shrug.card? 0 = some ⟨none, .quickReply "Pick one." []⟩ := rfl
  have shows : shrug.step reached.findBlock [] 0 = .ok _ := Block.step_of_card at_
  obtain ⟨rest, rfl⟩ := follows.first rfl shows
  have filled : Context.Filled [] := fun _ member => absurd member List.not_mem_nil
  have slips : (Cursor.card shrug 0).slips [] = true := by
    simp [Cursor.slips, at_, CardContent.slips, filled.fill_ne_empty]
  obtain ⟨call, member, bare⟩ := exists_hollow (hollow.trans follows.hollow) slips
  have said := speaks (fun _ _ _ medium => { medium }) {} { id := "bot" }
    { senderId := "ada", text := "hi" } shrugging rfl call (by rw [calls]; simp [member])
  cases said.symm.trans bare

end Turn

end Parley
