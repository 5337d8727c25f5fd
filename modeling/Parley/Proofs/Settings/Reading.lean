import Parley.Proofs.Text.Pieces
import Parley.Settings.Reader

/-!
Reading settings. A setting that is given has its value, with the environment filled into every text
at any depth and in one pass; one that is left out has its default. What has no default is a section
that is there and empty.
-/

namespace Parley

open Number Schema

/-! ### Filling in the environment -/

namespace Template

open Text

/-- A text is filled from left to right: a placeholder gives way to its value, or stays if there is
none, and what is filled in is not read again. -/
inductive Fills (marks : Marks) (value? : String → Option String) : List Char → List Char → Prop
  | done : Fills marks value? [] []
  | finds {name after filled : List Char} (identifier : Identifier name)
      (later : Fills marks value? after filled) :
    Fills marks value? (asPlaceholder marks name ++ after)
      (((value? (String.ofList name)).map String.toList).getD (asPlaceholder marks name) ++ filled)
  | passes {c : Char} {rest filled : List Char}
      (plain : ∀ name after, Identifier name → c :: rest ≠ asPlaceholder marks name ++ after)
      (later : Fills marks value? rest filled) : Fills marks value? (c :: rest) (c :: filled)

variable {marks : Marks} {value? : String → Option String} {text filled : List Char}

theorem fillChars_of_some {name after : List Char}
    (found : placeholder? marks text = some (name, after)) : fillChars marks value? text =
      ((value? (String.ofList name)).map String.toList).getD (asPlaceholder marks name) ++
        fillChars marks value? after := by
  rw [fillChars]
  split
  · rename_i found'
    cases found'.symm.trans found
    rfl
  · rename_i missing
    cases missing.symm.trans found

theorem fillChars_of_none {c : Char} {rest : List Char}
    (missing : placeholder? marks (c :: rest) = none) :
    fillChars marks value? (c :: rest) = c :: fillChars marks value? rest := by
  rw [fillChars]
  split
  · rename_i found
    cases missing.symm.trans found
  · rfl

theorem placeholder?_dollar {name : List Char} (identifier : Identifier name) (after : List Char) :
    placeholder? dollar (asPlaceholder dollar name ++ after) = some (name, after) :=
  placeholder?_marked rfl (by decide) identifier.named identifier.words after

theorem fills_dollar_iff :
    Fills dollar value? text filled ↔ fillChars dollar value? text = filled := by
  constructor
  · intro fills
    induction fills with
    | done =>
      rw [fillChars]
      rfl
    | finds identifier _ ih =>
      rw [fillChars_of_some (placeholder?_dollar identifier _), ih]
    | passes plain _ ih =>
      rw [fillChars_of_none, ih]
      rw [Option.eq_none_iff_forall_not_mem]
      rintro ⟨name, after⟩ found
      obtain ⟨named, words, spelled⟩ := placeholder?_spells found
      exact plain name after ⟨named, words⟩ spelled
  · rintro rfl
    fun_induction fillChars dollar value? text with
    | case1 text name after found _ ih =>
      obtain ⟨named, words, rfl⟩ := placeholder?_spells found
      exact .finds ⟨named, words⟩ ih
    | case2 => exact .done
    | case3 c rest missing ih =>
      refine .passes (fun name after identifier same => ?_) ih
      rw [same, placeholder?_dollar identifier] at missing
      cases missing

end Template

namespace Environment

open Template (Fills dollar)

/-- A value with the environment filled into its texts, at any depth. -/
inductive Filled (environment : Environment) : Json → Json → Prop
  | text {given filled : String}
      (fills : Fills dollar (environment.get? ·) given.toList filled.toList) :
    Filled environment (.str given) (.str filled)
  | items {given filled : List Json} (each : List.Forall₂ (Filled environment) given filled) :
    Filled environment (.arr given) (.arr filled)
  | fields {given filled : Fields} (names : given.map Prod.fst = filled.map Prod.fst)
      (each : List.Forall₂ (Filled environment) (given.map Prod.snd) (filled.map Prod.snd)) :
    Filled environment (.obj given) (.obj filled)
  | null : Filled environment .null .null
  | bool (value : Bool) : Filled environment (.bool value) (.bool value)
  | int (value : Int) : Filled environment (.int value) (.int value)
  | float (value : Float) : Filled environment (.float value) (.float value)

variable {environment : Environment}

theorem fillText_iff {given filled : String} :
    Fills dollar (environment.get? ·) given.toList filled.toList ↔
      environment.fillText given = filled := by
  rw [Template.fills_dollar_iff, fillText, Template.fillMarks, ← String.toList_inj,
    String.toList_ofList]

theorem names_fillFields (given : Fields) :
    given.map Prod.fst = (environment.fillFields given).map Prod.fst := by
  induction given with
  | nil => rfl
  | cons field rest ih => exact congrArg (field.1 :: ·) ih

theorem lookup_fillFields (name : String) (given : Fields) :
    Json.lookup name (environment.fillFields given) =
      (Json.lookup name given).map environment.fill := by
  induction given with
  | nil => rfl
  | cons field rest ih =>
    rw [fillFields, Json.lookup, Json.lookup, ih]
    split <;> rfl

mutual

theorem filled_fill : ∀ given : Json, Filled environment given (environment.fill given)
  | .null => .null
  | .bool value => .bool value
  | .int value => .int value
  | .float value => .float value
  | .str _ => .text (fillText_iff.mpr rfl)
  | .arr items => .items (filled_fillItems items)
  | .obj fields => .fields (names_fillFields fields) (filled_fillFields fields)

theorem filled_fillItems :
    ∀ given : List Json, List.Forall₂ (Filled environment) given (environment.fillItems given)
  | [] => .nil
  | item :: rest => .cons (filled_fill item) (filled_fillItems rest)

theorem filled_fillFields : ∀ given : Fields, List.Forall₂ (Filled environment) (given.map Prod.snd)
    ((environment.fillFields given).map Prod.snd)
  | [] => .nil
  | (_, value) :: rest => .cons (filled_fill value) (filled_fillFields rest)

end

end Environment

/-! ### Settings and their kinds -/

def DatabaseSettings.toJson (database : DatabaseSettings) : Json :=
  .obj [("url", database.url), ("store_backend", database.storeBackend),
    ("pool_size", .int database.poolSize)]

def MessengerSettings.toJson (messenger : MessengerSettings) : Json :=
  .obj [("graph_api_url", messenger.graphApiUrl),
    ("timeout_seconds", .float messenger.timeoutSeconds), ("max_retries", .int messenger.maxRetries)]

def QueueSettings.toJson (queue : QueueSettings) : Json :=
  .obj [("mailbox_size", .int queue.mailboxSize), ("idle_timeout_seconds", queue.idleTimeoutSeconds)]

namespace Settings

inductive Kind where
  | text
  | texts
  | truth
  | whole
  | number
  deriving DecidableEq

namespace Kind

/-- Values of a kind; a whole number is also a number. -/
inductive Has : Kind → Json → Prop
  | text (value : String) : Has .text (.str value)
  | texts (values : List String) : Has .texts (.arr (values.map .str))
  | truth (value : Bool) : Has .truth (.bool value)
  | whole (value : Int) : Has .whole (.int value)
  | integral (value : Int) : Has .number (.int value)
  | real (value : Float) : Has .number (.float value)

/-- A setting is read as a value: it is the same one, or of a number it is the floating-point one. -/
def ReadAs (kind : Kind) (value setting : Json) : Prop :=
  setting = value ∨ kind = .number ∧ setting = .float value.real

/-- What a setting is if it is given, and if it is not. -/
def Shows (kind : Kind) (environment : Environment) (default : Json) (given? : Option Json)
    (setting : Json) : Prop :=
  match given? with
  | some given => ∃ value, environment.Filled given value ∧ kind.ReadAs value setting
  | none => kind.ReadAs default setting

/-- A whole number that is given for a number can be written as a floating-point one. -/
def Fits (kind : Kind) (given? : Option Json) : Prop :=
  kind = .number → ∀ value, given? = some (.int value) → isFinite (floatOfInt value) = true

end Kind

/-- A setting by its place: the section that it stands in, if any, its name, and its kind. -/
structure Slot where
  part : Option String
  name : String
  kind : Kind

namespace Slot

def of (slot : Slot) (whole : Json) : Option Json :=
  match slot.part with
  | none => whole.get? slot.name
  | some part => (whole.get? part).bind (·.get? slot.name)

end Slot

def parts : List String := ["engine", "database", "messenger", "queue"]

def looseSlots : List Slot :=
  [⟨none, "app_name", .text⟩, ⟨none, "debug", .truth⟩, ⟨none, "log_level", .text⟩,
    ⟨none, "log_json", .truth⟩]

def engineSlots : List Slot :=
  [⟨"engine", "max_steps", .whole⟩, ⟨"engine", "max_delay_seconds", .number⟩,
    ⟨"engine", "bootstrap_default_blocks", .truth⟩, ⟨"engine", "interrupt_keywords", .texts⟩,
    ⟨"engine", "apology_message", .text⟩, ⟨"engine", "not_configured_message", .text⟩,
    ⟨"engine", "welcome_text", .text⟩, ⟨"engine", "default_answer_text", .text⟩]

def databaseSlots : List Slot :=
  [⟨"database", "url", .text⟩, ⟨"database", "store_backend", .text⟩,
    ⟨"database", "pool_size", .whole⟩]

def messengerSlots : List Slot :=
  [⟨"messenger", "graph_api_url", .text⟩, ⟨"messenger", "timeout_seconds", .number⟩,
    ⟨"messenger", "max_retries", .whole⟩]

def queueSlots : List Slot :=
  [⟨"queue", "mailbox_size", .whole⟩, ⟨"queue", "idle_timeout_seconds", .number⟩]

def slots : List Slot := looseSlots ++ engineSlots ++ databaseSlots ++ messengerSlots ++ queueSlots

/-- Settings as they may be written: each section is left out, empty or a mapping, and what is given
is of the kind of its setting. -/
structure Proper (written : Fields) : Prop where
  parts : ∀ part ∈ parts, ∀ given, Json.lookup part written = some given →
    given = .null ∨ ∃ fields, given = .obj fields
  kinds : ∀ slot ∈ slots, ∀ given, slot.of (.obj written) = some given → slot.kind.Has given

/-- Settings that can be read: no section is empty, and every number can be written as one. -/
structure Readable (written : Fields) : Prop where
  parts : ∀ part ∈ parts, Json.lookup part written ≠ some .null
  fits : ∀ slot ∈ slots, slot.kind.Fits (slot.of (.obj written))

/-! ### Reading one setting -/

section

variable (environment : Environment) {given : Fields} {name : String}

theorem asWritten_shows (kind : Kind) (default : Json) :
    kind.Shows environment default (Json.lookup name given)
      (asWritten (environment.fillFields given) name default) := by
  rw [asWritten, environment.lookup_fillFields]
  cases Json.lookup name given with
  | none => exact .inl rfl
  | some value => exact ⟨_, environment.filled_fill value, .inl rfl⟩

theorem whole_shows (has : ∀ value, Json.lookup name given = some value → Kind.whole.Has value)
    (default : Int) :
    ∃ n, orDefault (environment.fillFields given) name default cutInt = .ok n ∧
      Kind.whole.Shows environment (.int default) (Json.lookup name given) (.int n) := by
  rw [orDefault, environment.lookup_fillFields]
  cases found : Json.lookup name given with
  | none => exact ⟨default, rfl, .inl rfl⟩
  | some value => cases has value found with
    | whole n => exact ⟨n, rfl, _, environment.filled_fill _, .inl rfl⟩

theorem number_shows (has : ∀ value, Json.lookup name given = some value → Kind.number.Has value)
    (fits : Kind.number.Fits (Json.lookup name given)) (default : Json) :
    ∃ x, orDefault (environment.fillFields given) name default.real float = .ok x ∧
      Kind.number.Shows environment default (Json.lookup name given) (.float x) := by
  rw [orDefault, environment.lookup_fillFields]
  cases found : Json.lookup name given with
  | none => exact ⟨default.real, rfl, .inr ⟨rfl, rfl⟩⟩
  | some value => cases has value found with
    | integral n =>
      refine ⟨floatOfInt n, ?_, _, environment.filled_fill _, .inr ⟨rfl, rfl⟩⟩
      exact if_pos (fits rfl n found)
    | real x => exact ⟨x, rfl, _, environment.filled_fill _, .inl rfl⟩

theorem number_unfit (unfit : ¬ Kind.number.Fits (Json.lookup name given)) (default : Float) :
    orDefault (environment.fillFields given) name default float = .error .tooLarge := by
  simp only [Kind.Fits, true_implies, not_forall] at unfit
  obtain ⟨n, found, large⟩ := unfit
  rw [orDefault, environment.lookup_fillFields, found]
  exact if_neg large

end

/-! ### Reading a section -/

namespace Slot

def Typed (slots : List Slot) (given : Fields) : Prop :=
  ∀ slot ∈ slots, ∀ value, Json.lookup slot.name given = some value → slot.kind.Has value

def AllFit (slots : List Slot) (given : Fields) : Prop :=
  ∀ slot ∈ slots, slot.kind.Fits (Json.lookup slot.name given)

/-- Settings of a section have the values that are given, or else the defaults. -/
def AllShow (environment : Environment) (slots : List Slot) (defaults : Json) (given : Fields)
    (settings : Json) : Prop :=
  ∀ slot ∈ slots, ∃ default setting, defaults.get? slot.name = some default ∧
    settings.get? slot.name = some setting ∧
    slot.kind.Shows environment default (Json.lookup slot.name given) setting

end Slot

structure Reads {α : Type} (slots : List Slot) (read : Fields → Outcome α) (toJson : α → Json)
    (default : α) : Prop where
  reads : ∀ (environment : Environment) (given : Fields), Slot.Typed slots given →
    Slot.AllFit slots given → ∃ settings, read (environment.fillFields given) = .ok settings ∧
      Slot.AllShow environment slots (toJson default) given (toJson settings)
  fails : ∀ (environment : Environment) (given : Fields), Slot.Typed slots given →
    ¬ Slot.AllFit slots given → ∃ fault, read (environment.fillFields given) = .error fault

theorem readEngine_reads : Reads engineSlots readEngine EngineSettings.toJson {} where
  reads environment given typed fits := by
    simp only [Slot.Typed, Slot.AllFit, engineSlots, List.forall_mem_cons] at typed fits
    obtain ⟨steps, stepsRead, stepsShow⟩ :=
      whole_shows environment typed.1 ({} : EngineSettings).maxSteps
    obtain ⟨delay, delayRead, delayShow⟩ :=
      number_shows environment typed.2.1 fits.2.1 (.float ({} : EngineSettings).maxDelaySeconds)
    rw [Json.real] at delayRead
    rw [readEngine, stepsRead, delayRead]
    refine ⟨_, rfl, ?_⟩
    simp only [Slot.AllShow, engineSlots, List.forall_mem_cons]
    exact ⟨⟨_, _, rfl, rfl, stepsShow⟩, ⟨_, _, rfl, rfl, delayShow⟩,
      ⟨_, _, rfl, rfl, asWritten_shows ..⟩, ⟨_, _, rfl, rfl, asWritten_shows ..⟩,
      ⟨_, _, rfl, rfl, asWritten_shows ..⟩, ⟨_, _, rfl, rfl, asWritten_shows ..⟩,
      ⟨_, _, rfl, rfl, asWritten_shows ..⟩, ⟨_, _, rfl, rfl, asWritten_shows ..⟩, nofun⟩
  fails environment given typed unfit := by
    simp only [Slot.Typed, Slot.AllFit, engineSlots, List.forall_mem_cons] at typed unfit
    have large : ¬ Kind.number.Fits (Json.lookup "max_delay_seconds" given) := fun fits =>
      unfit ⟨nofun, fits, nofun, nofun, nofun, nofun, nofun, nofun, nofun⟩
    obtain ⟨steps, stepsRead, _⟩ := whole_shows environment typed.1 ({} : EngineSettings).maxSteps
    rw [readEngine, stepsRead, number_unfit environment large]
    exact ⟨_, rfl⟩

theorem readDatabase_reads : Reads databaseSlots readDatabase DatabaseSettings.toJson {} where
  reads environment given typed _ := by
    simp only [Slot.Typed, databaseSlots, List.forall_mem_cons] at typed
    obtain ⟨size, sizeRead, sizeShow⟩ :=
      whole_shows environment typed.2.2.1 ({} : DatabaseSettings).poolSize
    rw [readDatabase, sizeRead]
    refine ⟨_, rfl, ?_⟩
    simp only [Slot.AllShow, databaseSlots, List.forall_mem_cons]
    exact ⟨⟨_, _, rfl, rfl, asWritten_shows ..⟩, ⟨_, _, rfl, rfl, asWritten_shows ..⟩,
      ⟨_, _, rfl, rfl, sizeShow⟩, nofun⟩
  fails environment given _ unfit := by
    simp only [Slot.AllFit, databaseSlots, List.forall_mem_cons] at unfit
    exact absurd ⟨nofun, nofun, nofun, nofun⟩ unfit

theorem readMessenger_reads : Reads messengerSlots readMessenger MessengerSettings.toJson {} where
  reads environment given typed fits := by
    simp only [Slot.Typed, Slot.AllFit, messengerSlots, List.forall_mem_cons] at typed fits
    obtain ⟨timeout, timeoutRead, timeoutShow⟩ := number_shows environment typed.2.1 fits.2.1
      (.float ({} : MessengerSettings).timeoutSeconds)
    obtain ⟨retries, retriesRead, retriesShow⟩ :=
      whole_shows environment typed.2.2.1 ({} : MessengerSettings).maxRetries
    rw [Json.real] at timeoutRead
    rw [readMessenger, timeoutRead, retriesRead]
    refine ⟨_, rfl, ?_⟩
    simp only [Slot.AllShow, messengerSlots, List.forall_mem_cons]
    exact ⟨⟨_, _, rfl, rfl, asWritten_shows ..⟩, ⟨_, _, rfl, rfl, timeoutShow⟩,
      ⟨_, _, rfl, rfl, retriesShow⟩, nofun⟩
  fails environment given typed unfit := by
    simp only [Slot.AllFit, messengerSlots, List.forall_mem_cons] at unfit
    have large : ¬ Kind.number.Fits (Json.lookup "timeout_seconds" given) := fun fits =>
      unfit ⟨nofun, fits, nofun, nofun⟩
    rw [readMessenger, number_unfit environment large]
    exact ⟨_, rfl⟩

theorem readQueue_reads : Reads queueSlots readQueue QueueSettings.toJson {} where
  reads environment given typed fits := by
    simp only [Slot.Typed, Slot.AllFit, queueSlots, List.forall_mem_cons] at typed fits
    obtain ⟨size, sizeRead, sizeShow⟩ :=
      whole_shows environment typed.1 ({} : QueueSettings).mailboxSize
    obtain ⟨idle, idleRead, idleShow⟩ := number_shows environment typed.2.1 fits.2.1
      ({} : QueueSettings).idleTimeoutSeconds
    rw [readQueue, sizeRead, idleRead]
    refine ⟨_, rfl, ?_⟩
    simp only [Slot.AllShow, queueSlots, List.forall_mem_cons]
    exact ⟨⟨_, _, rfl, rfl, sizeShow⟩, ⟨_, _, rfl, rfl, idleShow⟩, nofun⟩
  fails environment given typed unfit := by
    simp only [Slot.Typed, Slot.AllFit, queueSlots, List.forall_mem_cons] at typed unfit
    have large : ¬ Kind.number.Fits (Json.lookup "idle_timeout_seconds" given) := fun fits =>
      unfit ⟨nofun, fits, nofun⟩
    obtain ⟨size, sizeRead, _⟩ := whole_shows environment typed.1 ({} : QueueSettings).mailboxSize
    rw [readQueue, sizeRead, number_unfit environment large]
    exact ⟨_, rfl⟩

/-! ### Reading the whole -/

/-- Settings show what was written, each in its place. -/
def Shown (environment : Environment) (written : Fields) (slots : List Slot) (settings : Settings) :
    Prop :=
  ∀ slot ∈ slots, ∃ default setting, slot.of ({} : Settings).toJson = some default ∧
    slot.of settings.toJson = some setting ∧
    slot.kind.Shows environment default (slot.of (.obj written)) setting

/-- A section that is not empty, whose numbers can be written as such. -/
structure PartReadable (part : String) (slots : List Slot) (written : Fields) : Prop where
  filled : Json.lookup part written ≠ some .null
  fits : ∀ slot ∈ slots, slot.kind.Fits (slot.of (.obj written))

section

variable {written given : Fields} {part : String} {slot : Slot}

theorem of_part {whole inner : Json} (own : slot.part = some part)
    (stands : whole.get? part = some inner) : slot.of whole = inner.get? slot.name := by
  rw [Slot.of, own]
  dsimp only
  rw [stands, Option.bind_some]

theorem of_absent (own : slot.part = some part) (absent : Json.lookup part written = none) :
    slot.of (.obj written) = none := by
  rw [Slot.of, own]
  dsimp only [Json.get?]
  rw [absent, Option.bind_none]

variable {α : Type} {slots : List Slot} {read : Fields → Outcome α} {toJson : α → Json} {default : α}

theorem Reads.section_cases (reads : Reads slots read toJson default) (part : String)
    (own : ∀ slot ∈ slots, slot.part = some part) (environment : Environment)
    (shape : ∀ given, Json.lookup part written = some given →
      given = .null ∨ ∃ fields, given = .obj fields)
    (typed : ∀ slot ∈ slots, ∀ given, slot.of (.obj written) = some given → slot.kind.Has given) :
    PartReadable part slots written ∧
      (∃ settings, sectionOr (environment.fillFields written) part default read = .ok settings ∧
        ∀ whole : Settings, ({} : Settings).toJson.get? part = some (toJson default) →
          whole.toJson.get? part = some (toJson settings) → Shown environment written slots whole) ∨
    ¬ PartReadable part slots written ∧
      ∃ fault, sectionOr (environment.fillFields written) part default read = .error fault := by
  rw [sectionOr, environment.lookup_fillFields]
  cases found : Json.lookup part written with
  | none =>
    -- a section of which nothing is given is read too, and shows its defaults
    obtain ⟨_, _, shows⟩ := reads.reads environment [] nofun nofun
    refine .inl ⟨⟨fun empty => (nomatch found.symm.trans empty), fun slot member => ?_⟩, default,
      rfl, fun whole stands stands' slot member => ?_⟩
    · rw [of_absent (own slot member) found]
      exact nofun
    · obtain ⟨default', _, named, _⟩ := shows slot member
      rw [of_part (own slot member) stands, of_part (own slot member) stands', named,
        of_absent (own slot member) found]
      exact ⟨default', default', rfl, rfl, .inl rfl⟩
  | some value =>
    rcases shape value found with rfl | ⟨given, rfl⟩
    · exact .inr ⟨fun readable => readable.filled found, _, rfl⟩
    · have stands : (Json.obj written).get? part = some (.obj given) := found
      have same (slot) (member : slot ∈ slots) :
          slot.of (.obj written) = Json.lookup slot.name given := of_part (own slot member) stands
      have typed' : Slot.Typed slots given := fun slot member value named =>
        typed slot member value ((same slot member).trans named)
      by_cases fits : Slot.AllFit slots given
      · obtain ⟨settings, done, shows⟩ := reads.reads environment given typed' fits
        refine .inl ⟨⟨fun empty => (nomatch found.symm.trans empty), fun slot member => ?_⟩, settings,
          done, fun whole stands stands' slot member => ?_⟩
        · rw [same slot member]
          exact fits slot member
        · rw [of_part (own slot member) stands, of_part (own slot member) stands', same slot member]
          exact shows slot member
      · refine .inr ⟨fun readable => fits fun slot member => ?_,
          reads.fails environment given typed' fits⟩
        rw [← same slot member]
        exact readable.fits slot member

end

theorem read_obj (environment : Environment) (written : Fields) :
    read environment (.obj written) = readFields (environment.fillFields written) := by
  cases written with
  | nil => rfl
  | cons field rest => rfl

theorem mem_slots_iff {slot : Slot} : slot ∈ slots ↔ slot ∈ looseSlots ∨ slot ∈ engineSlots ∨
    slot ∈ databaseSlots ∨ slot ∈ messengerSlots ∨ slot ∈ queueSlots := by
  simp only [slots, List.mem_append, or_assoc]

theorem readable_iff {written : Fields} : Readable written ↔
    PartReadable "engine" engineSlots written ∧ PartReadable "database" databaseSlots written ∧
      PartReadable "messenger" messengerSlots written ∧ PartReadable "queue" queueSlots written := by
  constructor
  · rintro ⟨filled, fits⟩
    simp only [mem_slots_iff, or_imp, forall_and] at fits
    obtain ⟨_, engine, database, messenger, queue⟩ := fits
    exact ⟨⟨filled _ (by decide), engine⟩, ⟨filled _ (by decide), database⟩,
      ⟨filled _ (by decide), messenger⟩, ⟨filled _ (by decide), queue⟩⟩
  · rintro ⟨engine, database, messenger, queue⟩
    constructor
    · simp only [parts, List.forall_mem_cons]
      exact ⟨engine.filled, database.filled, messenger.filled, queue.filled, nofun⟩
    · simp only [mem_slots_iff, or_imp, forall_and]
      refine ⟨?_, engine.fits, database.fits, messenger.fits, queue.fits⟩
      simp only [looseSlots, List.forall_mem_cons]
      exact ⟨nofun, nofun, nofun, nofun, nofun⟩

/-- What is given is read, with the environment filled in, and what is not has its default; unless a
section is there and empty, or a whole number is too large for a floating-point one. -/
theorem settings_are_given_or_default (environment : Environment) (written : Fields)
    (proper : Proper written) :
    (Readable written → ∃ settings, read environment (.obj written) = .ok settings ∧
      Shown environment written slots settings) ∧
    (¬ Readable written → ∃ fault, read environment (.obj written) = .error fault) := by
  rw [read_obj, readFields, readable_iff]
  have kinds {slot : Slot} (member) := proper.kinds slot (mem_slots_iff.mpr member)
  have engine := readEngine_reads.section_cases "engine" (by decide) environment
    (proper.parts _ (by decide)) fun _ member => kinds (.inr (.inl member))
  have database := readDatabase_reads.section_cases "database" (by decide) environment
    (proper.parts _ (by decide)) fun _ member => kinds (.inr (.inr (.inl member)))
  have messenger := readMessenger_reads.section_cases "messenger" (by decide) environment
    (proper.parts _ (by decide)) fun _ member => kinds (.inr (.inr (.inr (.inl member))))
  have queue := readQueue_reads.section_cases "queue" (by decide) environment
    (proper.parts _ (by decide)) fun _ member => kinds (.inr (.inr (.inr (.inr member))))
  rcases engine with ⟨engineReadable, engine, engineRead, engineShows⟩ | ⟨empty, fault, failed⟩
  swap
  · rw [failed]
    exact ⟨fun readable => absurd readable.1 empty, fun _ => ⟨fault, rfl⟩⟩
  rcases database with
    ⟨databaseReadable, database, databaseRead, databaseShows⟩ | ⟨empty, fault, failed⟩
  swap
  · rw [engineRead, failed]
    exact ⟨fun readable => absurd readable.2.1 empty, fun _ => ⟨fault, rfl⟩⟩
  rcases messenger with
    ⟨messengerReadable, messenger, messengerRead, messengerShows⟩ | ⟨empty, fault, failed⟩
  swap
  · rw [engineRead, databaseRead, failed]
    exact ⟨fun readable => absurd readable.2.2.1 empty, fun _ => ⟨fault, rfl⟩⟩
  rcases queue with ⟨queueReadable, queue, queueRead, queueShows⟩ | ⟨empty, fault, failed⟩
  swap
  · rw [engineRead, databaseRead, messengerRead, failed]
    exact ⟨fun readable => absurd readable.2.2.2 empty, fun _ => ⟨fault, rfl⟩⟩
  -- no section has failed
  rw [engineRead, databaseRead, messengerRead, queueRead]
  refine ⟨fun _ => ⟨_, rfl, ?_⟩, absurd
    ⟨engineReadable, databaseReadable, messengerReadable, queueReadable⟩⟩
  simp only [Shown, mem_slots_iff, or_imp, forall_and]
  refine ⟨?_, engineShows _ rfl rfl, databaseShows _ rfl rfl, messengerShows _ rfl rfl,
    queueShows _ rfl rfl⟩
  simp only [looseSlots, List.forall_mem_cons]
  exact ⟨⟨_, _, rfl, rfl, asWritten_shows ..⟩, ⟨_, _, rfl, rfl, asWritten_shows ..⟩,
    ⟨_, _, rfl, rfl, asWritten_shows ..⟩, ⟨_, _, rfl, rfl, asWritten_shows ..⟩, nofun⟩

def hosted : Fields :=
  [("app_name", .str "bot of ${HOST}"),
    ("engine", .obj [("max_steps", .int 5), ("interrupt_keywords", .arr [.str "stop ${HOST}"])]),
    ("queue", .obj [])]

theorem hosted_settings_are_read : Proper hosted ∧ Readable hosted ∧
    ∃ settings, read [("HOST", "${HOST}")] (.obj hosted) = .ok settings ∧
      Shown [("HOST", "${HOST}")] hosted slots settings := by
  have proper : Proper hosted := by
    constructor
    · simp [parts, hosted, Json.lookup]
    · have keywords : Kind.texts.Has (.arr [.str "stop ${HOST}"]) := .texts ["stop ${HOST}"]
      simp [slots, looseSlots, engineSlots, databaseSlots, messengerSlots, queueSlots, Slot.of,
        hosted, Json.get?, Json.lookup, Kind.Has.text, Kind.Has.whole, keywords]
  have readable : Readable hosted := by
    constructor
    · simp [parts, hosted, Json.lookup]
    · simp [slots, looseSlots, engineSlots, databaseSlots, messengerSlots, queueSlots, Slot.of,
        hosted, Json.get?, Json.lookup, Kind.Fits]
  exact ⟨proper, readable, (settings_are_given_or_default _ hosted proper).1 readable⟩

/-- A section of which nothing is written but its name. -/
theorem empty_section_is_no_mapping : Proper [("engine", .null)] ∧
    read [] (.obj []) = .ok {} ∧
    read [] (.obj [("engine", .null)]) = .error .notMapping := by
  refine ⟨⟨?_, ?_⟩, rfl, rfl⟩
  · simp [parts, Json.lookup]
  · simp [slots, looseSlots, engineSlots, databaseSlots, messengerSlots, queueSlots, Slot.of,
      Json.get?, Json.lookup]

end Settings

end Parley
