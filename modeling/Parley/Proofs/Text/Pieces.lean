import Parley.Loose.Texts
import Parley.Proofs.Text.Cleaning

/-!
Messages taken apart at their placeholders. A scan from left to right finds the leftmost placeholder
and goes on behind it; this is the only way to take a message apart that leaves no placeholder in
between. Filling puts a value in place of each placeholder that was found and touches nothing else.
-/

namespace Parley.Template

open Text

/-! ### Placeholders -/

/-- A name that may stand in a placeholder. -/
structure Identifier (name : List Char) : Prop where
  named : name ≠ []
  words : ∀ c ∈ name, isWord c = true

/-- A text that begins with a placeholder. -/
def Opens (text : List Char) : Prop :=
  ∃ name after, Identifier name ∧ text = asPlaceholder braces name ++ after

theorem not_opens_nil : ¬ Opens [] := by
  rintro ⟨name, after, _, empty⟩
  cases empty

theorem Opens.append {text : List Char} (opens : Opens text) (more : List Char) :
    Opens (text ++ more) := by
  obtain ⟨name, after, identifier, rfl⟩ := opens
  exact ⟨name, after ++ more, identifier, List.append_assoc ..⟩

theorem identifier_of_placeholder? {text name after : List Char}
    (found : placeholder? braces text = some (name, after)) :
    Identifier name ∧ text = asPlaceholder braces name ++ after := by
  obtain ⟨named, words, spelled⟩ := placeholder?_spells found
  exact ⟨⟨named, words⟩, spelled⟩

theorem not_opens_of_placeholder? {text : List Char} (missing : placeholder? braces text = none) :
    ¬ Opens text := by
  rintro ⟨name, after, identifier, rfl⟩
  rw [placeholder?_asPlaceholder identifier.named identifier.words] at missing
  cases missing

theorem inert_iff {text : List Char} :
    Inert braces text ↔ ∀ rest, rest <:+ text → ¬ Opens rest := by
  constructor
  · rintro inert rest ⟨front, rfl⟩ ⟨name, after, identifier, rfl⟩
    exact inert name identifier.named identifier.words ⟨front, after, by rw [List.append_assoc]⟩
  · rintro plain name named words ⟨front, after, rfl⟩
    refine plain (asPlaceholder braces name ++ after) ⟨front, ?_⟩ ⟨name, after, ⟨named, words⟩, rfl⟩
    rw [List.append_assoc]

/-- Behind its first character a placeholder does not begin again, whatever follows it. -/
theorem not_opens_within {name front back : List Char} (identifier : Identifier name)
    (parts : front ++ back = asPlaceholder braces name) (begun : front ≠ []) (left : back ≠ [])
    (after : List Char) : ¬ Opens (back ++ after) := by
  rintro ⟨other, later, _, same⟩
  have word : isWord '{' = false := by decide
  have unopened : '{' ∉ name ++ braces.closing := by
    intro member
    rcases List.mem_append.mp member with inside | closing
    · exact Bool.false_ne_true (word.symm.trans (identifier.words _ inside))
    · revert closing
      decide
  have spelled : asPlaceholder braces name = '{' :: '{' :: (name ++ braces.closing) := rfl
  obtain ⟨first, rest, rfl⟩ := List.exists_cons_of_ne_nil left
  obtain ⟨rfl, doubled⟩ : first = '{' ∧ rest ++ after = '{' :: (other ++ braces.closing ++ later) := by
    simpa [asPlaceholder, braces] using same
  have inside : '{' :: rest <:+ '{' :: '{' :: (name ++ braces.closing) := ⟨front, parts.trans spelled⟩
  rcases List.suffix_cons_iff.mp inside with whole | inside
  · -- then nothing would stand before
    have lengths := congrArg List.length parts
    rw [List.length_append, spelled, ← whole] at lengths
    exact begun (List.eq_nil_of_length_eq_zero (by omega))
  rcases List.suffix_cons_iff.mp inside with second | inside
  · obtain ⟨letter, more, rfl⟩ := List.exists_cons_of_ne_nil identifier.named
    rw [(List.cons.inj second).2, List.cons_append, List.cons_append] at doubled
    rw [(List.cons.inj doubled).1] at unopened
    exact unopened (List.mem_append_left _ List.mem_cons_self)
  · exact unopened (inside.subset List.mem_cons_self)

/-! ### Taking a text apart -/

structure Spot where
  before : List Char
  name : List Char
  deriving DecidableEq, Repr

/-- A text that is taken apart: placeholders, each with the text before it, and the text behind all of
them. -/
structure Pieces where
  spots : List Spot
  last : List Char
  deriving DecidableEq, Repr

namespace Pieces

/-- The text that has something else in place of each placeholder. -/
def write (inPlace : List Char → List Char) (pieces : Pieces) : List Char :=
  pieces.spots.flatMap (fun spot => spot.before ++ inPlace spot.name) ++ pieces.last

def push (c : Char) : Pieces → Pieces
  | ⟨[], last⟩ => ⟨[], c :: last⟩
  | ⟨spot :: spots, last⟩ => ⟨{ spot with before := c :: spot.before } :: spots, last⟩

def mark (name : List Char) (pieces : Pieces) : Pieces := ⟨⟨[], name⟩ :: pieces.spots, pieces.last⟩

section

variable {inPlace other : List Char → List Char}

@[simp] theorem write_nil (last : List Char) : write inPlace ⟨[], last⟩ = last := rfl

@[simp] theorem write_cons (spot : Spot) (spots : List Spot) (last : List Char) :
    write inPlace ⟨spot :: spots, last⟩ =
      spot.before ++ inPlace spot.name ++ write inPlace ⟨spots, last⟩ := by
  simp [write]

@[simp] theorem write_push (c : Char) (pieces : Pieces) :
    (pieces.push c).write inPlace = c :: pieces.write inPlace := by
  obtain ⟨spots, last⟩ := pieces
  cases spots <;> simp [push]

@[simp] theorem write_mark (name : List Char) (pieces : Pieces) :
    (pieces.mark name).write inPlace = inPlace name ++ pieces.write inPlace := by
  simp [mark]

theorem write_congr {pieces : Pieces}
    (same : ∀ spot ∈ pieces.spots, inPlace spot.name = other spot.name) :
    pieces.write inPlace = pieces.write other := by
  rw [write, write, List.flatMap_congr fun spot member => by rw [same spot member]]

end

end Pieces

/-- Pieces of a text none of which has a placeholder in it. -/
structure Divides (text : List Char) (pieces : Pieces) : Prop where
  whole : pieces.write (asPlaceholder braces) = text
  identifiers : ∀ spot ∈ pieces.spots, Identifier spot.name
  plain : ∀ spot ∈ pieces.spots, Inert braces spot.before
  last : Inert braces pieces.last

theorem divides_nil_iff {text last : List Char} :
    Divides text ⟨[], last⟩ ↔ last = text ∧ Inert braces text := by
  constructor
  · rintro ⟨rfl, _, _, inert⟩
    exact ⟨rfl, inert⟩
  · rintro ⟨rfl, inert⟩
    exact ⟨rfl, by simp, by simp, inert⟩

theorem divides_cons_iff {text before name : List Char} {pieces : Pieces} :
    Divides text ⟨⟨before, name⟩ :: pieces.spots, pieces.last⟩ ↔
      Identifier name ∧ Inert braces before ∧
        ∃ after, text = before ++ asPlaceholder braces name ++ after ∧ Divides after pieces := by
  constructor
  · rintro ⟨whole, identifiers, plain, inert⟩
    rw [List.forall_mem_cons] at identifiers plain
    exact ⟨identifiers.1, plain.1, _, by rw [← whole, Pieces.write_cons],
      rfl, identifiers.2, plain.2, inert⟩
  · rintro ⟨identifier, inert, after, rfl, divides⟩
    refine ⟨?_, List.forall_mem_cons.mpr ⟨identifier, divides.identifiers⟩,
      List.forall_mem_cons.mpr ⟨inert, divides.plain⟩, divides.last⟩
    rw [Pieces.write_cons, divides.whole]

/-- The pieces of a text in which placeholders are looked for from left to right, each one behind the
one that was found before. -/
inductive Scanned : List Char → Pieces → Prop where
  | ends {text : List Char} (plain : ∀ place ≤ text.length, ¬ Opens (text.drop place)) :
    Scanned text ⟨[], text⟩
  | finds {text before name after : List Char} {rest : Pieces}
    (spelled : text = before ++ asPlaceholder braces name ++ after) (identifier : Identifier name)
    (leftmost : ∀ place < before.length, ¬ Opens (text.drop place)) (goesOn : Scanned after rest) :
    Scanned text ⟨⟨before, name⟩ :: rest.spots, rest.last⟩

def pieces (text : List Char) : Pieces :=
  match h : placeholder? braces text with
  | some (name, after) =>
    have := length_lt_of_placeholder? h
    (pieces after).mark name
  | none =>
    match text with
    | [] => ⟨[], []⟩
    | c :: rest => (pieces rest).push c
termination_by text.length

theorem Scanned.push {c : Char} {rest : List Char} {pieces : Pieces} (closed : ¬ Opens (c :: rest))
    (scanned : Scanned rest pieces) : Scanned (c :: rest) (pieces.push c) := by
  cases scanned with
  | ends plain =>
    refine .ends fun place within => ?_
    cases place with
    | zero => exact closed
    | succ place => exact plain place (Nat.le_of_succ_le_succ within)
  | @finds _ before name after _ spelled identifier leftmost goesOn =>
    refine .finds (by rw [spelled]; rfl) identifier (fun place within => ?_) goesOn
    cases place with
    | zero => exact closed
    | succ place => exact leftmost place (Nat.lt_of_succ_lt_succ within)

theorem scanned_pieces (text : List Char) : Scanned text (pieces text) := by
  fun_induction pieces text with
  | case1 text name after found _ ih =>
    obtain ⟨identifier, spelled⟩ := identifier_of_placeholder? found
    exact .finds spelled identifier (fun _ none => absurd none (Nat.not_lt_zero _)) ih
  | case2 => exact .ends fun place _ => by rw [List.drop_nil]; exact not_opens_nil
  | case3 c rest missing ih => exact ih.push (not_opens_of_placeholder? missing)

/-- What a scan passes over has no placeholder in it. -/
theorem Scanned.divides {text : List Char} {pieces : Pieces} (scanned : Scanned text pieces) :
    Divides text pieces := by
  induction scanned with
  | @ends text plain =>
    refine divides_nil_iff.mpr ⟨rfl, inert_iff.mpr ?_⟩
    rintro rest ⟨front, rfl⟩
    have closed := plain front.length (by simp)
    rwa [List.drop_left] at closed
  | @finds text before name after rest spelled identifier leftmost goesOn ih =>
    refine divides_cons_iff.mpr ⟨identifier, inert_iff.mpr ?_, after, spelled, ih⟩
    rintro part ⟨front, rfl⟩ opens
    have filled : part ≠ [] := fun empty => not_opens_nil (empty ▸ opens)
    refine leftmost front.length ?_ ?_
    · rw [List.length_append]
      exact Nat.lt_add_of_pos_right (List.length_pos_of_ne_nil filled)
    · rw [spelled, List.append_assoc, List.append_assoc, List.drop_left]
      exact opens.append _

/-! ### One way to take a text apart -/

theorem identifier_unique {name other after later : List Char} (identifier : Identifier name)
    (identifier' : Identifier other)
    (same : asPlaceholder braces name ++ after = asPlaceholder braces other ++ later) :
    name = other ∧ after = later := by
  have first := placeholder?_asPlaceholder identifier.named identifier.words after
  have second := placeholder?_asPlaceholder identifier'.named identifier'.words later
  rw [same] at first
  have found := Option.some.inj (first.symm.trans second)
  exact Prod.mk.inj found

theorem eq_nil_of_opens {name after before rest : List Char} (identifier : Identifier name)
    (inert : Inert braces before) (opens : Opens rest)
    (same : asPlaceholder braces name ++ after = before ++ rest) : before = [] := by
  by_contra begun
  rcases List.append_eq_append_iff.mp same with ⟨more, rfl, _⟩ | ⟨back, parts, rfl⟩
  · exact inert name identifier.named identifier.words (List.infix_append' [] _ more)
  · cases back with
    | nil =>
      rw [List.append_nil] at parts
      exact inert name identifier.named identifier.words (parts ▸ List.infix_rfl)
    | cons c back =>
      exact not_opens_within identifier parts.symm begun (List.cons_ne_nil c back) after opens

/-- Whoever takes a text apart so that no placeholder is left in between finds the same pieces. -/
theorem Divides.eq_pieces {text : List Char} {given : Pieces} (divides : Divides text given) :
    given = pieces text := by
  fun_induction pieces text generalizing given with
  | case1 text name after found _ ih =>
    obtain ⟨identifier, spelled⟩ := identifier_of_placeholder? found
    obtain ⟨_ | ⟨⟨before, other⟩, spots⟩, last⟩ := given
    · obtain ⟨_, inert⟩ := divides_nil_iff.mp divides
      refine absurd ?_ (inert name identifier.named identifier.words)
      rw [spelled]
      exact (List.prefix_append _ _).isInfix
    · obtain ⟨identifier', inert, later, whole, rest⟩ :=
        (@divides_cons_iff _ _ _ ⟨spots, last⟩).mp divides
      rw [spelled, List.append_assoc] at whole
      obtain rfl := eq_nil_of_opens identifier inert ⟨other, later, identifier', rfl⟩ whole
      obtain ⟨rfl, rfl⟩ := identifier_unique identifier identifier' whole
      rw [← ih rest]
      rfl
  | case2 =>
    obtain ⟨_ | ⟨spot, spots⟩, last⟩ := given
    · exact congrArg (Pieces.mk []) divides.whole
    · have whole := divides.whole
      simp [asPlaceholder, braces] at whole
  | case3 c rest missing ih =>
    have closed := not_opens_of_placeholder? missing
    obtain ⟨_ | ⟨⟨before, name⟩, spots⟩, last⟩ := given
    · obtain ⟨rfl, inert⟩ := divides_nil_iff.mp divides
      rw [← ih (divides_nil_iff.mpr ⟨rfl, inert.mono (List.suffix_cons c rest).isInfix⟩)]
      rfl
    · obtain ⟨identifier, inert, after, whole, later⟩ :=
        (@divides_cons_iff _ _ _ ⟨spots, last⟩).mp divides
      -- no placeholder opens here, so the first character is of the text before one
      cases before with
      | nil => exact absurd ⟨name, after, identifier, whole⟩ closed
      | cons first before =>
        obtain ⟨rfl, parts⟩ := List.cons.inj whole
        have inert := inert.mono (List.suffix_cons c before).isInfix
        rw [← ih (divides_cons_iff.mpr ⟨identifier, inert, after, parts, later⟩)]
        rfl

/-! ### Filling -/

/-- Filling puts values in place of the placeholders that a scan finds. -/
theorem fillChars_eq_write (value? : String → Option String) (text : List Char) :
    fillChars braces value? text = (pieces text).write fun name =>
      ((value? (String.ofList name)).map String.toList).getD (asPlaceholder braces name) := by
  fun_induction pieces text with
  | case1 text name after found _ ih =>
    obtain ⟨identifier, rfl⟩ := identifier_of_placeholder? found
    rw [fillChars_placeholder identifier.named identifier.words, ih, Pieces.write_mark]
  | case2 missing =>
    rw [fillChars]
    rfl
  | case3 c rest missing ih =>
    rw [Pieces.write_push, ← ih, fillChars]
    split
    · rename_i found
      cases missing.symm.trans found
    · rfl

/-- What stands in place of a placeholder: the text of the value under its name, nothing for null, and
the placeholder itself if there is no value. -/
def shown (values : List (String × Json)) (name : List Char) : List Char :=
  match Json.lookup (String.ofList name) values with
  | some .null => []
  | some value => value.display.toList
  | none => asPlaceholder braces name

theorem fillVariable?_eq_shown (values : List (String × Json)) (name : List Char) :
    ((Json.fillVariable? values (String.ofList name)).map String.toList).getD
      (asPlaceholder braces name) = shown values name := by
  rw [shown, Json.fillVariable?]
  cases Json.lookup (String.ofList name) values with
  | none => rfl
  | some value => cases value <;> rfl

theorem interpolate_eq_write (text : String) (values : List (String × Json)) :
    Loose.interpolate (.str text) (.obj values) =
      .ok (String.ofList ((pieces text.toList).write (shown values))) := by
  have filled := fillChars_eq_write (Json.fillVariable? values) text.toList
  simp only [fillVariable?_eq_shown] at filled
  exact congrArg (Except.ok ∘ String.ofList) filled

/-- A message is filled in one pass. It is taken apart by a scan from left to right, which is the only
way that leaves no placeholder in between; each placeholder gives way to the value under its name, and
the text around it stays. So values are not read again, other values do not matter, and placeholders
that stand for themselves leave the message as it is. -/
theorem message_is_filled_in_one_pass (text : String) :
    ∃ found : Pieces, Scanned text.toList found ∧ Divides text.toList found ∧
      (∀ other, Divides text.toList other → other = found) ∧
      (∀ value? : String → Option String, fill value? text = String.ofList (found.write fun name =>
        ((value? (String.ofList name)).map String.toList).getD (asPlaceholder braces name))) ∧
      (∀ values, Loose.interpolate (.str text) (.obj values) =
        .ok (String.ofList (found.write (shown values)))) ∧
      (∀ values others : List (String × Json),
        (∀ spot ∈ found.spots, Json.lookup (String.ofList spot.name) values =
          Json.lookup (String.ofList spot.name) others) →
        Loose.interpolate (.str text) (.obj values) = Loose.interpolate (.str text) (.obj others)) ∧
      ∀ values : List (String × Json),
        (∀ name value, Json.lookup name values = some value →
          value = .str (String.ofList (asPlaceholder braces name.toList))) →
        Loose.interpolate (.str text) (.obj values) = .ok text := by
  have divides := (scanned_pieces text.toList).divides
  refine ⟨pieces text.toList, scanned_pieces _, divides, fun other same => same.eq_pieces,
    fun value? => ?_, interpolate_eq_write text, fun values others same => ?_, fun values own => ?_⟩
  · rw [fill, fillMarks, fillChars_eq_write]
  · rw [interpolate_eq_write, interpolate_eq_write]
    congr 2
    refine Pieces.write_congr fun spot member => ?_
    rw [shown, shown, same spot member]
  · have still : shown values = asPlaceholder braces := by
      funext name
      rw [shown]
      cases known : Json.lookup (String.ofList name) values with
      | none => rfl
      | some value =>
        rw [own _ value known, String.toList_ofList]
        exact String.toList_ofList
    rw [interpolate_eq_write, still, divides.whole, String.ofList_toList]

/-- Three braces on each side, and a placeholder that is not closed before the next one. -/
def spareBraces : String := "\x7b\x7b\x7ba\x7d\x7d\x7d \x7b\x7bb\x7d\x7b\x7bc\x7d\x7d"

/-- Variables that hold their own placeholders, in a message with braces to spare. -/
theorem placeholders_stand_for_themselves :
    let values : List (String × Json) :=
      [("a", .str "\x7b\x7ba\x7d\x7d"), ("b", .str "\x7b\x7bb\x7d\x7d")]
    (∀ name value, Json.lookup name values = some value →
      value = .str (String.ofList (asPlaceholder braces name.toList))) ∧
    Loose.interpolate (.str spareBraces) (.obj values) = .ok spareBraces := by
  intro values
  have own : ∀ name value, Json.lookup name values = some value →
      value = .str (String.ofList (asPlaceholder braces name.toList)) := by
    intro name value known
    simp only [values, Json.lookup] at known
    split at known
    · rename_i same
      cases known
      exact same ▸ congrArg Json.str (by decide)
    · split at known
      · rename_i same
        cases known
        exact same ▸ congrArg Json.str (by decide)
      · cases known
  obtain ⟨_, _, _, _, _, _, _, unchanged⟩ := message_is_filled_in_one_pass spareBraces
  exact ⟨own, unchanged values own⟩

end Parley.Template
