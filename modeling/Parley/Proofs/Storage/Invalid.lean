import Parley.Proofs.Storage.Saving
import Parley.Proofs.Turn.Silence

/-!
Rows that are not valid. They are passed over where blocks and flows are listed, reported where one of
them is asked for by its id, and found like all others by their flags, so that a default answer that is
not valid is not given a second one.
-/

namespace Parley

/-! ### Rows of any kind -/

section

variable {ρ α : Type} {before : ρ → ρ → Bool} {read : ρ → Except Failure α} {valid : ρ → Bool}

variable (trans : ∀ a b c, before a b = true → before b c = true → before a c = true)
  (total : ∀ a b, (before a b || before b a) = true)
  (readable : ∀ row, valid row = (read row).toOption.isSome)

include trans total readable

end

/-! ### Rows of blocks and flows -/

namespace BlockRow

def isValid (row : BlockRow) : Bool := row.check.isValid

def bare (row : BlockRow) : BlockRow := { row with cards := .arr [], triggers := .arr [] }

end BlockRow

namespace FlowRow

def isValid (row : FlowRow) : Bool := row.check.isValid

end FlowRow

namespace Sql

variable {sql other : Sql} {botId : String}

end Sql

namespace Storage

variable {storage : Storage} {sql : Sql} {botId : String}

end Storage

/-! ### Searches for the default answer -/

namespace Bootstrap

/-- A search that will not save a default answer unless it finds none, and that saves a welcome block, if
it does, under an id that is not in use. -/
def Harmless (storage : Storage) : Bootstrap → Prop
  | .saveAnswer _ => False
  | .findWelcome | .saveWelcome => Source.idOf storage.source.issued ∉ storage.store.blockIds
  | _ => True

variable (options : Options) {botId : String} {storage : Storage}

theorem Harmless.step {state : Bootstrap} (harmless : state.Harmless storage)
    (flagged : storage.store.flagCount .defaultAnswer botId ≠ 0) :
    (outcome (Bootstrap.step options botId state) storage).2.store.flagCount .defaultAnswer botId =
        storage.store.flagCount .defaultAnswer botId ∧
      ∀ next, (outcome (Bootstrap.step options botId state) storage).1 = .ok next →
        next.Harmless (outcome (Bootstrap.step options botId state) storage).2 := by
  have finds {found : Option String} (answer : storage.flagged? botId answerFlag = .ok found) :
      ∃ blockId, found = some blockId := by
    refine Option.ne_none_iff_exists'.mp ?_
    rintro rfl
    exact flagged ((Storage.flagged?_eq_none_iff .defaultAnswer).mp answer).2
  cases state with
  | findAnswer =>
    rw [Bootstrap.step, outcome_findFlagged_bind]
    cases answer : storage.flagged? botId answerFlag with
    | error failure => exact ⟨rfl, fun _ next => by cases next⟩
    | ok found =>
      obtain ⟨blockId, rfl⟩ := finds answer
      exact ⟨rfl, fun _ next => by cases next; trivial⟩
  | loadAnswer blockId =>
    rw [Bootstrap.step, outcome_bind, Storage.outcome_getBlock]
    cases storage.findBlock botId blockId with
    | error failure => exact ⟨rfl, fun _ next => by cases next⟩
    | ok answer => exact ⟨rfl, fun _ next => by cases next; trivial⟩
  | findWelcome =>
    rw [Bootstrap.step, outcome_findFlagged_bind]
    cases storage.flagged? botId welcomeFlag with
    | error failure => exact ⟨rfl, fun _ next => by cases next⟩
    | ok found =>
      cases found with
      | some blockId => exact ⟨rfl, fun _ next => by cases next; trivial⟩
      | none => exact ⟨rfl, fun _ next => by cases next; exact harmless⟩
  -- the only request of these that saves: a welcome block is a row of its own and no default answer
  | saveWelcome =>
    have asks : Asks options botId storage .saveWelcome _ := step_asks harmless .saveWelcome
    rcases run : outcome (Bootstrap.step options botId .saveWelcome) storage with ⟨answer, reached⟩
    rw [run] at asks
    cases asks with
    | goes steps =>
      cases steps with
      | welcomes takes furnishes =>
        have counted := furnishes.flagCount .defaultAnswer botId
        rw [if_neg fun both => by cases both.2] at counted
        exact ⟨counted, fun _ next => by cases next; trivial⟩
    | fails hindered same issued =>
      exact ⟨congrArg (Store.flagCount .defaultAnswer botId) same, fun _ next => by cases next⟩
  | findAnswerAgain created =>
    rw [Bootstrap.step, outcome_findFlagged_bind]
    cases answer : storage.flagged? botId answerFlag with
    | error failure => exact ⟨rfl, fun _ next => by cases next⟩
    | ok found =>
      obtain ⟨blockId, rfl⟩ := finds answer
      exact ⟨rfl, fun _ next => by cases next; trivial⟩
  | saveAnswer created => exact harmless.elim
  | finished created answer => exact ⟨rfl, fun _ next => by cases next; trivial⟩

theorem Harmless.run {state : Bootstrap} (harmless : state.Harmless storage)
    (flagged : storage.store.flagCount .defaultAnswer botId ≠ 0) (requests : Nat) :
    (outcome (Bootstrap.run options botId requests state) storage).2.store.flagCount .defaultAnswer
      botId = storage.store.flagCount .defaultAnswer botId := by
  induction requests generalizing state storage with
  | zero => rfl
  | succ requests ih =>
    obtain ⟨same, later⟩ := harmless.step options flagged
    rw [Bootstrap.run, outcome_bind]
    rcases first : outcome (Bootstrap.step options botId state) storage with ⟨answer, reached⟩
    rw [first] at same later
    cases answer with
    | error failure => exact same
    | ok next => exact (ih (later next rfl) (same ▸ flagged)).trans same

end Bootstrap

/-! ### A store with rows that are not valid -/

end Parley
