import Parley.Proofs.Text.Normalizing
import Parley.Source

/-!
Lists of blocks and flows that are given as JSON text: a list means the same in either form, but the
text of null is no list where null itself is the empty one.
-/

/-! ## JSON text

No blank text is one: the text of a value holds the character with which the value begins.
-/

namespace Parley.Json

open Text Number

/-- How a text, a list, an object, a negative number and the names begin. -/
def openers : List Char := ['"', '[', '{', '-', 'n', 't', 'f', 'N', 'I']

def begins (c : Char) : Bool := c.isDigit || openers.contains c

theorem not_isBlank_of_begins {c : Char} (first : begins c = true) : isBlank c = false := by
  rcases Bool.or_eq_true_iff.mp first with digit | mark
  · have apart : ∀ gap ∈ blankRanges, gap.2 < '0'.toNat ∨ '9'.toNat < gap.1 := by decide
    obtain ⟨low, high⟩ := Char.isDigit_iff_toNat.mp digit
    refine Bool.eq_false_iff.mpr fun blank => ?_
    obtain ⟨gap, listed, first, last⟩ := inRanges_eq_true_iff.mp blank
    have away := apart gap listed
    omega
  · have solid : openers.any isBlank = false := rfl
    exact Bool.eq_false_iff.mpr (List.any_eq_false.mp solid c (List.contains_iff_mem.mp mark))

theorem dropWord_begins {word : String} {text after : List Char}
    (dropped : dropWord word text = some after) : word.toList <+: text := by
  unfold dropWord at dropped
  split at dropped
  · exact List.isPrefixOf_iff_prefix.mp ‹_›
  · cases dropped

theorem parseName_begins {text : List Char} {found : Json × List Char}
    (named : parseName text = some found) : ∃ c rest, text = c :: rest ∧ begins c = true := by
  unfold parseName at named
  obtain ⟨⟨word, value⟩, member, dropped⟩ := List.exists_of_findSome?_eq_some named
  obtain ⟨after, dropped, -⟩ := Option.map_eq_some_iff.mp dropped
  obtain ⟨rest, rfl⟩ := dropWord_begins dropped
  simp only [List.mem_cons, Prod.mk.injEq, List.not_mem_nil, or_false] at member
  rcases member with ⟨rfl, -⟩ | ⟨rfl, -⟩ | ⟨rfl, -⟩ | ⟨rfl, -⟩ | ⟨rfl, -⟩ | ⟨rfl, -⟩ <;>
    exact ⟨_, _, rfl, by decide⟩

theorem parseNumber_begins {negative : Bool} {text : List Char} {found : Json × List Char}
    (read : parseNumber negative text = some found) :
    ∃ c rest, text = c :: rest ∧ begins c = true := by
  cases text with
  | nil => cases read
  | cons c rest =>
    refine ⟨c, rest, rfl, ?_⟩
    by_contra other
    have letter : c.isDigit = false := by
      rw [begins, Bool.or_eq_true, not_or] at other
      exact Bool.eq_false_iff.mpr other.1
    have noDigits : (takeDigits (c :: rest)).1 = [] :=
      List.takeWhile_cons_of_neg (Bool.not_eq_true _ ▸ letter)
    unfold parseNumber at read
    split at read
    rename_i whole after taken
    split at taken
    · rename_i zero
      cases zero
      cases letter
    · rw [taken] at noDigits
      subst noDigits
      cases read

theorem parseValue_begins {fuel : Nat} {text : List Char} {found : Json × List Char}
    (read : parseValue fuel text = some found) :
    ∃ c rest, skipSpace text = c :: rest ∧ begins c = true := by
  cases fuel with
  | zero => cases read
  | succ fuel =>
    unfold parseValue at read
    split at read
    · exact ⟨_, _, ‹_›, rfl⟩
    · exact ⟨_, _, ‹_›, rfl⟩
    · exact ⟨_, _, ‹_›, rfl⟩
    · exact ⟨_, _, ‹_›, rfl⟩
    · split at read
      · exact parseName_begins ‹_›
      · exact parseNumber_begins read

theorem parse?_solid {text : String} {value : Json} (read : parse? text = some value) :
    ∃ c ∈ text.toList, isBlank c = false := by
  simp only [parse?] at read
  split at read
  · obtain ⟨c, rest, begun, first⟩ := parseValue_begins ‹_›
    have inside : c ∈ skipSpace text.toList := begun ▸ List.mem_cons_self
    exact ⟨c, (List.dropWhile_sublist _).subset inside, not_isBlank_of_begins first⟩
  · cases read

end Parley.Json

/-! ## Fields that hold lists -/

namespace Parley.Schema

variable {α β : Type} {text : String} {value : Json}

/-! ### What is wrong with a record -/

namespace Checked

def faults : Checked α → List Issue
  | valid _ => []
  | invalid issues => issues

@[simp] theorem faults_map (f : α → β) (checked : Checked α) :
    (f <$> checked).faults = checked.faults := by
  cases checked <;> rfl

@[simp] theorem faults_seq (f : Checked (α → β)) (checked : Checked α) :
    (f <*> checked).faults = f.faults ++ checked.faults := by
  cases f <;> cases checked <;> simp [faults, Seq.seq, apply]

@[simp] theorem faults_under (step : Step) (checked : Checked α) :
    (checked.under step).faults = checked.faults.map (·.under step) := by
  cases checked <;> rfl

theorem toOption_of_faults {checked : Checked α} {issue : Issue} (faulty : issue ∈ checked.faults) :
    checked.toOption = none := by
  cases checked with
  | valid _ => cases faulty
  | invalid issues => rfl

theorem toOption_eq_none_iff (checked : Checked α) :
    checked.toOption = none ↔ checked.isValid = false := by
  cases checked <;> simp [toOption, isValid]

end Checked

/-! ### One field of a record -/

theorem pick_put_same (name : String) (value : Json) (fields : Fields) :
    pick (key name) (Json.put name value fields) = some (name, value) := by
  rw [pick, key, Json.lookup_put_same]

theorem pick_put_other {name : String} {key : Key} (authored : key.authored ≠ name)
    (stored : key.stored ≠ name) (value : Json) (fields : Fields) :
    pick key (Json.put name value fields) = pick key fields := by
  rw [pick, pick, Json.lookup_put_other authored, Json.lookup_put_other stored]

@[simp] theorem withDefault_put_same (name : String) (default : α) (read : Json → Checked α)
    (value : Json) (fields : Fields) :
    withDefault (key name) default read (Json.put name value fields) =
      (read value).under (.field name) := by
  rw [withDefault, pick_put_same]

theorem withDefault_put_other {name : String} {key : Key} (authored : key.authored ≠ name)
    (stored : key.stored ≠ name) (default : α) (read : Json → Checked α) (value : Json)
    (fields : Fields) :
    withDefault key default read (Json.put name value fields) =
      withDefault key default read fields := by
  rw [withDefault, withDefault, pick_put_other authored stored]

/-! ### A list given as text -/

theorem readAuthoredList_text (read : Json → Checked α) (written : Json.parse? text = some value) :
    readAuthoredList read (.str text) = readList read value := by
  have solid : (Text.trim text.toList).isEmpty = false := by
    rw [Bool.eq_false_iff, ne_eq, List.isEmpty_iff]
    exact Text.trim_ne_nil_iff.mpr (Json.parse?_solid written)
  rw [readAuthoredList, solid, written]
  rfl

theorem readAuthoredList_native (read : Json → Checked α) (some : value ≠ .null)
    (noText : ∀ other, value ≠ .str other) : readAuthoredList read value = readList read value := by
  cases value with
  | null => exact absurd rfl some
  | str other => exact absurd rfl (noText other)
  | _ => rfl

/-- A record looks at a field only as a list, and reports all that is wrong with the list. -/
structure ReadsList (read : Json → Checked β) (name : String) (item : Json → Checked α) : Prop where
  depends : ∀ {first second}, readAuthoredList item first = readAuthoredList item second →
    ∀ fields, read (.obj (Json.put name first fields)) = read (.obj (Json.put name second fields))
  reports : ∀ {value}, ∀ issue ∈ (readAuthoredList item value).faults, ∀ fields,
    issue.under (.field name) ∈ (read (.obj (Json.put name value fields))).faults

end Parley.Schema

namespace Parley

open Schema

/-! ### Lists of blocks and flows -/

section Lists

variable (id : String) (now : Timestamp)

theorem Block.readsList_cards : ReadsList (Block.read id now) "cards" Card.read where
  depends same fields := by
    simp (disch := decide) [Block.read, record, textField, textField?, withDefault_put_other, same]
  reports issue reported fields := by
    simp [Block.read, record, List.mem_map_of_mem reported]

theorem Block.readsList_triggers : ReadsList (Block.read id now) "triggers" readText where
  depends same fields := by
    simp (disch := decide) [Block.read, record, textField, textField?, withDefault_put_other, same]
  reports issue reported fields := by
    simp [Block.read, record, List.mem_map_of_mem reported]

theorem Flow.readsList_nodes : ReadsList (Flow.read id now) "nodes" Node.read where
  depends same fields := by
    simp (disch := decide) [Flow.read, record, textField, withDefault_put_other, same]
  reports issue reported fields := by
    simp [Flow.read, record, List.mem_map_of_mem reported]

theorem Flow.readsList_edges : ReadsList (Flow.read id now) "edges" Edge.read where
  depends same fields := by
    simp (disch := decide) [Flow.read, record, textField, withDefault_put_other, same]
  reports issue reported fields := by
    simp [Flow.read, record, List.mem_map_of_mem reported]

theorem Flow.readsList_triggers : ReadsList (Flow.read id now) "triggers" readText where
  depends same fields := by
    simp (disch := decide) [Flow.read, record, textField, withDefault_put_other, same]
  reports issue reported fields := by
    simp [Flow.read, record, List.mem_map_of_mem reported]

end Lists

/-! ### Fresh ids and times -/

variable {α β : Type} {name : String}

/-- Reads a record; one without id or time of creation takes a fresh id and the next reading of the
clock. -/
def Source.stamped (read : String → Timestamp → Json → Checked β) (value : Json) :
    Draw (Checked β) := do
  let id ← idFor value
  let time ← timeFor Field.createdAt value
  return read id time value

theorem Source.readBlock_eq : Source.readBlock = Source.stamped Block.read := rfl

theorem Source.readFlow_eq : Source.readFlow = Source.stamped Flow.read := rfl

theorem Source.gives_put {key : Key} (authored : key.authored ≠ name) (stored : key.stored ≠ name)
    (value : Json) (fields : Fields) :
    Source.gives key (.obj (Json.put name value fields)) = Source.gives key (.obj fields) := by
  rw [gives, gives, pick_put_other authored stored]

theorem Source.stamped_put {read : String → Timestamp → Json → Checked β} {item : Json → Checked α}
    (reads : ∀ id now, ReadsList (read id now) name item)
    (unmarked : ∀ mark ∈ [key "id", Field.createdAt], mark.authored ≠ name ∧ mark.stored ≠ name)
    {first second : Json} (same : readAuthoredList item first = readAuthoredList item second)
    (fields : Fields) :
    Source.stamped read (.obj (Json.put name first fields)) =
      Source.stamped read (.obj (Json.put name second fields)) := by
  have id := unmarked (key "id") (by decide)
  have time := unmarked Field.createdAt (by decide)
  simp only [stamped, idFor, timeFor, gives_put id.1 id.2, gives_put time.1 time.2,
    (reads _ _).depends same fields]

/-- A record whose field holds JSON text, beside the record whose field holds its value. -/
structure TextFits (read : Json → Draw (Checked β)) (name text : String) (value : Json)
    (fields : Fields) : Prop where
  same : value ≠ .null →
    read (.obj (Json.put name (.str text) fields)) = read (.obj (Json.put name value fields))
  empty : value = .null →
    read (.obj (Json.put name value fields)) = read (.obj (Json.put name (.arr []) fields))
  refused : value = .null → ∀ source,
    ⟨[.field name], .notList⟩ ∈ (read (.obj (Json.put name (.str text) fields)) source).1.faults
  alike_iff : ∀ source,
    (read (.obj (Json.put name (.str text) fields)) source).1.toOption =
        (read (.obj (Json.put name value fields)) source).1.toOption ↔
      value ≠ .null ∨ (read (.obj (Json.put name value fields)) source).1.isValid = false

theorem textFits_stamped {read : String → Timestamp → Json → Checked β} {item : Json → Checked α}
    (reads : ∀ id now, ReadsList (read id now) name item)
    (unmarked : ∀ mark ∈ [key "id", Field.createdAt], mark.authored ≠ name ∧ mark.stored ≠ name)
    {text : String} {value : Json} (written : Json.parse? text = some value)
    (noText : ∀ other, value ≠ .str other) (fields : Fields) :
    TextFits (Source.stamped read) name text value fields := by
  have same (some : value ≠ .null) :
      Source.stamped read (.obj (Json.put name (.str text) fields)) =
        Source.stamped read (.obj (Json.put name value fields)) := by
    apply Source.stamped_put reads unmarked
    rw [readAuthoredList_text item written, readAuthoredList_native item some noText]
  have refused (none : value = .null) (source : Source) : ⟨[.field name], .notList⟩ ∈
      (Source.stamped read (.obj (Json.put name (.str text) fields)) source).1.faults := by
    have fault : ⟨[], .notList⟩ ∈ (readAuthoredList item (.str text)).faults := by
      rw [readAuthoredList_text item written, none]
      exact .head _
    exact (reads _ _).reports _ fault fields
  refine ⟨same, fun none => ?_, refused, fun source => ?_⟩
  · rw [none]
    exact Source.stamped_put reads unmarked (by rfl) fields
  · by_cases none : value = .null
    · rw [Checked.toOption_of_faults (refused none source), eq_comm, Checked.toOption_eq_none_iff]
      exact (or_iff_right (not_not_intro none)).symm
    · exact iff_of_true (by rw [same none]) (.inl none)

/-- A list of a block or of a flow may be given as JSON text. Whatever is no text itself means the
same in either form, but for null, which alone is the empty list and as text is refused. -/
theorem list_text_fits_unless_null {text : String} {value : Json}
    (written : Json.parse? text = some value) (noText : ∀ other, value ≠ .str other)
    (fields : Fields) :
    (∀ name ∈ ["cards", "triggers"], TextFits Source.readBlock name text value fields) ∧
      ∀ name ∈ ["nodes", "edges", "triggers"], TextFits Source.readFlow name text value fields := by
  rw [Source.readBlock_eq, Source.readFlow_eq]
  simp only [List.forall_mem_cons, List.not_mem_nil, false_implies, implies_true, and_true]
  refine ⟨⟨?cards, ?triggers⟩, ?nodes, ?edges, ?others⟩
  case cards => exact textFits_stamped Block.readsList_cards (by decide) written noText fields
  case triggers => exact textFits_stamped Block.readsList_triggers (by decide) written noText fields
  case nodes => exact textFits_stamped Flow.readsList_nodes (by decide) written noText fields
  case edges => exact textFits_stamped Flow.readsList_edges (by decide) written noText fields
  case others => exact textFits_stamped Flow.readsList_triggers (by decide) written noText fields

theorem greeting_fits_as_text :
    Json.parse? "[\"hi\"]" = some (.arr [.str "hi"]) ∧
      Source.readBlock (.obj [("triggers", .str "[\"hi\"]")]) =
        Source.readBlock (.obj [("triggers", .arr [.str "hi"])]) := by
  have written : Json.parse? "[\"hi\"]" = some (.arr [.str "hi"]) := by
    have chars : "[\"hi\"]".toList = ['[', '"', 'h', 'i', '"', ']'] := rfl
    rw [Json.parse?, chars]
    simp [Json.parseValue, Json.skipSpace, Json.parseItems, Json.parseText]
  have fits := (list_text_fits_unless_null written (by simp) []).1 "triggers" (by decide)
  exact ⟨written, fits.same (by simp)⟩

theorem null_text_is_no_list :
    Json.parse? "null" = some .null ∧
      (Source.readBlock (.obj [("cards", .null)]) ⟨0, 0⟩).1.isValid = true ∧
      (Source.readBlock (.obj [("cards", .str "null")]) ⟨0, 0⟩).1.isValid = false := ⟨rfl, rfl, rfl⟩

end Parley
