import Mathlib.Data.List.Forall2
import Parley.Proofs.Text.Cleaning

/-!
Hidden elements: where one stands in a text, which of them a pass from left to right removes, and
which are left behind. What stood on both sides of an element that was removed comes together; an
element that is left has its name or its closing tag from there.
-/

namespace Parley.Markup

open Text

/-! ### Two passes -/

theorem dropElements_of_some {text rest : List Char} (found : element? text = some rest) :
    dropElements text = dropElements rest := by
  rw [dropElements]
  split
  · rename_i found'
    cases found'.symm.trans found
    rfl
  · rename_i missing
    cases missing.symm.trans found

theorem dropElements_of_none {c : Char} {rest : List Char} (missing : element? (c :: rest) = none) :
    dropElements (c :: rest) = c :: dropElements rest := by
  rw [dropElements]
  split
  · rename_i found
    cases missing.symm.trans found
  · rfl

@[simp] theorem dropElements_nil : dropElements [] = [] := by
  rw [dropElements]
  rfl

theorem dropTags_of_some {text rest : List Char} (found : tag? text = some rest) :
    dropTags text = dropTags rest := by
  rw [dropTags]
  split
  · rename_i found'
    cases found'.symm.trans found
    rfl
  · rename_i missing
    cases missing.symm.trans found

theorem dropTags_of_none {c : Char} {rest : List Char} (missing : tag? (c :: rest) = none) :
    dropTags (c :: rest) = c :: dropTags rest := by
  rw [dropTags]
  split
  · rename_i found
    cases missing.symm.trans found
  · rfl

@[simp] theorem dropTags_nil : dropTags [] = [] := by
  rw [dropTags]
  rfl

theorem element?_of_ne {c : Char} (other : c ≠ '<') (rest : List Char) :
    element? (c :: rest) = none := by
  simp [element?, opening?, other]

theorem tag?_of_ne {c : Char} (other : c ≠ '<') (rest : List Char) : tag? (c :: rest) = none := by
  simp [tag?, other]

theorem pass_append_of_not_mem {pass : List Char → List Char}
    (stays : ∀ c rest, c ≠ '<' → pass (c :: rest) = c :: pass rest) {front : List Char}
    (plain : '<' ∉ front) (back : List Char) : pass (front ++ back) = front ++ pass back := by
  induction front with
  | nil => rfl
  | cons c front ih =>
    rw [List.mem_cons, not_or] at plain
    rw [List.cons_append, stays c _ (Ne.symm plain.1), ih plain.2, List.cons_append]

theorem dropElements_append_of_not_mem {front : List Char} (plain : '<' ∉ front) (back : List Char) :
    dropElements (front ++ back) = front ++ dropElements back :=
  pass_append_of_not_mem (fun _ rest other => dropElements_of_none (element?_of_ne other rest)) plain
    back

theorem dropTags_append_of_not_mem {front : List Char} (plain : '<' ∉ front) (back : List Char) :
    dropTags (front ++ back) = front ++ dropTags back :=
  pass_append_of_not_mem (fun _ rest other => dropTags_of_none (tag?_of_ne other rest)) plain back

theorem strip_of_not_mem {text : List Char} (plain : '<' ∉ text) : strip text = text := by
  have elements := dropElements_append_of_not_mem plain []
  have tags := dropTags_append_of_not_mem plain []
  rw [List.append_nil, dropElements_nil, List.append_nil] at elements
  rw [List.append_nil, dropTags_nil, List.append_nil] at tags
  rw [strip, elements, tags]

/-! ### Elements -/

/-- Letters that count as those of a name. -/
def Spells (name said : List Char) : Prop :=
  List.Forall₂ (fun letter c => sameLetter letter c = true) name said

/-- A name said once more, in letters of any case. -/
def Repeats (name said : List Char) : Prop :=
  List.Forall₂ (fun letter c => foldLetter letter = foldLetter c) name said

/-- A hidden element, taken apart. -/
structure Element where
  name : List Char
  attributes : List Char
  body : List Char
  closingName : List Char
  blanks : List Char
  named : ∃ hidden ∈ hiddenElements, Spells hidden name
  apart : continuesWord (attributes ++ ['>']) = false
  unclosed : '>' ∉ attributes
  closes : Repeats name closingName
  blank : ∀ c ∈ blanks, isBlank c = true

namespace Element

def start (element : Element) : List Char := '<' :: element.name

def opening (element : Element) : List Char := element.start ++ element.attributes ++ ['>']

def closing (element : Element) : List Char :=
  '<' :: '/' :: (element.closingName ++ element.blanks ++ ['>'])

def text (element : Element) : List Char := element.opening ++ element.body ++ element.closing

/-- No element with a shorter body begins where this one does. -/
def Leads (element : Element) (after : List Char) : Prop :=
  ∀ (other : Element) (later : List Char), element.text ++ after = other.text ++ later →
    element.body.length ≤ other.body.length

theorem text_eq (element : Element) :
    element.text =
      element.start ++ (element.attributes ++ '>' :: element.body) ++ element.closing := by
  simp [text, opening]

end Element

/-! ### Reading elements -/

theorem spelled?_eq_some_iff {name text taken rest : List Char} :
    spelled? name text = some (taken, rest) ↔ text = taken ++ rest ∧ Spells name taken := by
  induction name generalizing text taken with
  | nil =>
    simp only [spelled?, Option.some.injEq, Prod.mk.injEq, Spells, List.forall₂_nil_left_iff]
    constructor
    · rintro ⟨rfl, rfl⟩
      exact ⟨rfl, rfl⟩
    · rintro ⟨rfl, rfl⟩
      exact ⟨rfl, rfl⟩
  | cons letter name ih =>
    cases text with
    | nil =>
      simp only [spelled?, reduceCtorEq, false_iff, not_and]
      rintro whole (_ | ⟨_, _⟩)
      cases whole
    | cons c text =>
      rw [spelled?]
      split
      · rename_i same
        simp only [Option.map_eq_some_iff, Prod.exists, Prod.mk.injEq]
        constructor
        · rintro ⟨said, after, found, rfl, rfl⟩
          obtain ⟨rfl, each⟩ := ih.mp found
          exact ⟨rfl, .cons same each⟩
        · rintro ⟨whole, _ | ⟨first, each⟩⟩
          obtain ⟨rfl, rfl⟩ := List.cons.inj whole
          exact ⟨_, rest, ih.mpr ⟨rfl, each⟩, rfl, rfl⟩
      · rename_i differ
        simp only [reduceCtorEq, false_iff, not_and]
        rintro whole (_ | ⟨first, each⟩)
        obtain ⟨rfl, rfl⟩ := List.cons.inj whole
        exact differ first

theorem dropName?_eq_some_iff {name text rest : List Char} :
    dropName? name text = some rest ↔ ∃ said, text = said ++ rest ∧ Repeats name said := by
  induction name generalizing text with
  | nil => simp [dropName?, Repeats]
  | cons letter name ih =>
    cases text with
    | nil =>
      simp only [dropName?, reduceCtorEq, false_iff, not_exists, not_and]
      rintro _ whole (_ | ⟨_, _⟩)
      cases whole
    | cons c text =>
      rw [dropName?]
      split
      · rename_i same
        rw [ih]
        constructor
        · rintro ⟨said, rfl, each⟩
          exact ⟨c :: said, rfl, .cons same each⟩
        · rintro ⟨_, whole, _ | ⟨first, each⟩⟩
          obtain ⟨rfl, rfl⟩ := List.cons.inj whole
          exact ⟨_, rfl, each⟩
      · rename_i differ
        simp only [reduceCtorEq, false_iff, not_exists, not_and]
        rintro _ whole (_ | ⟨first, each⟩)
        obtain ⟨rfl, rfl⟩ := List.cons.inj whole
        exact differ first

theorem afterBracket?_eq_some_iff {text rest : List Char} :
    afterBracket? text = some rest ↔ ∃ front, text = front ++ '>' :: rest ∧ '>' ∉ front := by
  induction text with
  | nil => simp [afterBracket?]
  | cons c text ih =>
    rw [afterBracket?]
    split
    · rename_i bracket
      subst bracket
      constructor
      · intro found
        cases found
        exact ⟨[], rfl, List.not_mem_nil⟩
      · rintro ⟨_ | ⟨first, front⟩, whole, unclosed⟩
        · exact congrArg some (List.cons.inj whole).2
        · rw [(List.cons.inj whole).1] at unclosed
          exact absurd List.mem_cons_self unclosed
    · rename_i other
      rw [ih]
      constructor
      · rintro ⟨front, rfl, unclosed⟩
        refine ⟨c :: front, rfl, ?_⟩
        rw [List.mem_cons, not_or]
        exact ⟨Ne.symm other, unclosed⟩
      · rintro ⟨_ | ⟨first, front⟩, whole, unclosed⟩
        · exact absurd (List.cons.inj whole).1 other
        · obtain ⟨rfl, rfl⟩ := List.cons.inj whole
          exact ⟨front, rfl, fun member => unclosed (List.mem_cons_of_mem _ member)⟩

theorem afterClosing?_eq_some_iff {name text rest : List Char} :
    afterClosing? name text = some rest ↔ ∃ said blanks,
      text = '<' :: '/' :: (said ++ blanks ++ '>' :: rest) ∧
      Repeats name said ∧ ∀ c ∈ blanks, isBlank c = true := by
  constructor
  · intro found
    unfold afterClosing? at found
    split at found
    · rename_i inner
      split at found
      · rename_i after dropped
        obtain ⟨said, rfl, each⟩ := dropName?_eq_some_iff.mp dropped
        split at found
        · rename_i last bracket
          cases found
          refine ⟨said, after.takeWhile isBlank, ?_, each, fun c => List.mem_takeWhile_imp⟩
          rw [← bracket, List.append_assoc, List.takeWhile_append_dropWhile]
        · cases found
      · cases found
    · cases found
  · rintro ⟨said, blanks, rfl, each, blank⟩
    have dropped : dropName? name (said ++ (blanks ++ '>' :: rest)) = some (blanks ++ '>' :: rest) :=
      dropName?_eq_some_iff.mpr ⟨said, rfl, each⟩
    have dark : isBlank '>' = false := by decide
    have bracket : (blanks ++ '>' :: rest).dropWhile isBlank = '>' :: rest := by
      rw [List.dropWhile_append_of_pos blank, List.dropWhile_cons_of_neg (by simp [dark])]
    rw [List.append_assoc]
    simp only [afterClosing?, dropped, bracket]

theorem afterElement?_eq_some {name content rest : List Char}
    (found : afterElement? name content = some rest) :
    ∃ body tag, content = body ++ tag ∧ afterClosing? name tag = some rest ∧
      ∀ front tag' rest', content = front ++ tag' → afterClosing? name tag' = some rest' →
        body.length ≤ front.length := by
  induction content with
  | nil => cases found
  | cons c content ih =>
    rw [afterElement?] at found
    split at found
    · rename_i after closing
      cases found
      exact ⟨[], c :: content, rfl, closing, fun _ _ _ _ _ => Nat.zero_le _⟩
    · rename_i missing
      obtain ⟨body, tag, rfl, closing, first⟩ := ih found
      refine ⟨c :: body, tag, rfl, closing, ?_⟩
      rintro (_ | ⟨d, front⟩) tag' rest' whole closing'
      · rw [List.nil_append] at whole
        rw [whole, closing'] at missing
        cases missing
      · exact Nat.succ_le_succ (first front tag' rest' (List.cons.inj whole).2 closing')

theorem afterElement?_ne_none {name tag rest : List Char}
    (closing : afterClosing? name tag = some rest) (body : List Char) :
    afterElement? name (body ++ tag) ≠ none := by
  induction body with
  | nil =>
    cases tag with
    | nil => cases closing
    | cons c tag => simp [afterElement?, closing]
  | cons c body ih =>
    rw [List.cons_append, afterElement?]
    split
    · exact Option.some_ne_none _
    · exact ih

theorem continuesWord_append (front back : List Char) :
    continuesWord (front ++ '>' :: back) = continuesWord (front ++ ['>']) := by
  cases front <;> rfl

theorem hidden_unique {hidden other name rest name' rest' : List Char}
    (member : hidden ∈ hiddenElements) (member' : other ∈ hiddenElements)
    (spelled : Spells hidden name) (spelled' : Spells other name')
    (same : name ++ rest = name' ++ rest') : hidden = other := by
  -- they differ in the second letter, also when case is ignored
  have second (c : Char) : ¬ (sameLetter 'c' c = true ∧ sameLetter 't' c = true) := by
    simp only [sameLetter]
    grind
  simp only [hiddenElements, List.mem_cons, List.not_mem_nil, or_false] at member member'
  rcases member with rfl | rfl <;> rcases member' with rfl | rfl
  · rfl
  · obtain _ | ⟨_, _ | ⟨c, _⟩⟩ := spelled
    obtain _ | ⟨_, _ | ⟨c', _⟩⟩ := spelled'
    simp only [List.cons_append, List.cons.injEq] at same
    exact absurd ⟨c, same.2.1 ▸ c'⟩ (second _)
  · obtain _ | ⟨_, _ | ⟨c, _⟩⟩ := spelled
    obtain _ | ⟨_, _ | ⟨c', _⟩⟩ := spelled'
    simp only [List.cons_append, List.cons.injEq] at same
    exact absurd ⟨same.2.1 ▸ c', c⟩ (second _)
  · rfl

theorem opening?_eq_some {text name content : List Char}
    (found : opening? text = some (name, content)) :
    ∃ attributes, text = '<' :: (name ++ (attributes ++ '>' :: content)) ∧
      (∃ hidden ∈ hiddenElements, Spells hidden name) ∧
      continuesWord (attributes ++ ['>']) = false ∧ '>' ∉ attributes := by
  unfold opening? at found
  split at found
  · obtain ⟨hidden, member, inner⟩ := List.exists_of_findSome?_eq_some found
    split at inner
    · rename_i said after spelled
      obtain ⟨rfl, each⟩ := spelled?_eq_some_iff.mp spelled
      split at inner
      · cases inner
      · rename_i apart
        obtain ⟨content', bracket, same⟩ := Option.map_eq_some_iff.mp inner
        cases same
        obtain ⟨attributes, rfl, unclosed⟩ := afterBracket?_eq_some_iff.mp bracket
        rw [continuesWord_append, Bool.not_eq_true] at apart
        exact ⟨attributes, rfl, ⟨hidden, member, each⟩, apart, unclosed⟩
    · cases inner
  · cases found

theorem opening?_unique {name attributes content name' attributes' content' : List Char}
    (named : ∃ hidden ∈ hiddenElements, Spells hidden name) (unclosed : '>' ∉ attributes)
    (named' : ∃ hidden ∈ hiddenElements, Spells hidden name') (unclosed' : '>' ∉ attributes')
    (same : name ++ (attributes ++ '>' :: content) = name' ++ (attributes' ++ '>' :: content')) :
    name = name' ∧ content = content' := by
  obtain ⟨hidden, member, each⟩ := named
  obtain ⟨other, member', each'⟩ := named'
  obtain rfl := hidden_unique member member' each each' same
  obtain ⟨rfl, rest⟩ := List.append_inj same (each.length_eq.symm.trans each'.length_eq)
  have bracket : afterBracket? (attributes ++ '>' :: content) = some content :=
    afterBracket?_eq_some_iff.mpr ⟨attributes, rfl, unclosed⟩
  have bracket' : afterBracket? (attributes ++ '>' :: content) = some content' :=
    afterBracket?_eq_some_iff.mpr ⟨attributes', rest, unclosed'⟩
  exact ⟨rfl, Option.some.inj (bracket.symm.trans bracket')⟩

namespace Element

variable (element : Element)

theorem opening_append (rest : List Char) :
    element.opening ++ rest = '<' :: (element.name ++ (element.attributes ++ '>' :: rest)) := by
  simp [opening, start]

theorem opening?_append (rest : List Char) :
    opening? (element.opening ++ rest) = some (element.name, rest) := by
  have some : opening? (element.opening ++ rest) ≠ none := by
    obtain ⟨hidden, member, each⟩ := element.named
    have spelled : spelled? hidden (element.name ++ (element.attributes ++ '>' :: rest)) =
        some (element.name, element.attributes ++ '>' :: rest) :=
      spelled?_eq_some_iff.mpr ⟨rfl, each⟩
    have apart : continuesWord (element.attributes ++ '>' :: rest) = false :=
      (continuesWord_append _ rest).trans element.apart
    have bracket : afterBracket? (element.attributes ++ '>' :: rest) = .some rest :=
      afterBracket?_eq_some_iff.mpr ⟨element.attributes, rfl, element.unclosed⟩
    intro none
    rw [opening_append, opening?, List.findSome?_eq_none_iff] at none
    have missed := none hidden member
    simp [spelled, apart, bracket] at missed
  obtain ⟨⟨name, content⟩, found⟩ := Option.ne_none_iff_exists'.mp some
  obtain ⟨attributes, whole, named, _, unclosed⟩ := opening?_eq_some found
  rw [opening_append] at whole
  obtain ⟨rfl, rfl⟩ := opening?_unique element.named element.unclosed named unclosed
    (List.cons.inj whole).2
  exact found

theorem afterClosing?_append (rest : List Char) :
    afterClosing? element.name (element.closing ++ rest) = some rest :=
  afterClosing?_eq_some_iff.mpr ⟨element.closingName, element.blanks, by simp [closing],
    element.closes, element.blank⟩

theorem text_append (after : List Char) :
    element.text ++ after = element.opening ++ (element.body ++ (element.closing ++ after)) := by
  simp [text]

theorem element?_append (after : List Char) : element? (element.text ++ after) =
    afterElement? element.name (element.body ++ (element.closing ++ after)) := by
  rw [text_append, element?, opening?_append]

end Element

/-- A pass takes out the element that a text begins with, and the one with the shortest body. -/
theorem element?_eq_some {text after : List Char} (found : element? text = some after) :
    ∃ element : Element, text = element.text ++ after ∧ element.Leads after := by
  unfold element? at found
  split at found
  · rename_i name content opened
    obtain ⟨attributes, whole, named, apart, unclosed⟩ := opening?_eq_some opened
    obtain ⟨body, tag, rfl, closing, first⟩ := afterElement?_eq_some found
    obtain ⟨said, blanks, rfl, closes, blank⟩ := afterClosing?_eq_some_iff.mp closing
    let element : Element :=
      ⟨name, attributes, body, said, blanks, named, apart, unclosed, closes, blank⟩
    have spelled : text = element.text ++ after := by
      simp [whole, element, Element.text, Element.opening, Element.start, Element.closing]
    refine ⟨element, spelled, fun other later same => ?_⟩
    rw [spelled, same, other.text_append, other.opening?_append] at opened
    obtain ⟨rfl, content⟩ := Prod.mk.inj (Option.some.inj opened)
    exact first other.body _ later content.symm (other.afterClosing?_append later)
  · cases found

theorem element?_ne_none (element : Element) (after : List Char) :
    element? (element.text ++ after) ≠ none := by
  rw [element.element?_append]
  exact afterElement?_ne_none (element.afterClosing?_append after) _

theorem Element.Leads.element?_eq {element : Element} {after : List Char}
    (leads : element.Leads after) : element? (element.text ++ after) = some after := by
  obtain ⟨rest, found⟩ := Option.ne_none_iff_exists'.mp (element?_ne_none element after)
  obtain ⟨other, whole, leads'⟩ := element?_eq_some found
  have opened := congrArg opening? whole
  rw [element.text_append, other.text_append, element.opening?_append, other.opening?_append]
    at opened
  obtain ⟨names, contents⟩ := Prod.mk.inj (Option.some.inj opened)
  -- two elements that begin here have the same opening tag, and bodies of one length
  have lengths := Nat.le_antisymm (leads other rest whole) (leads' element after whole.symm)
  have tags := (List.append_inj contents lengths).2
  have closes := other.afterClosing?_append rest
  rw [← names, ← tags, element.afterClosing?_append] at closes
  rw [found, Option.some.inj closes]

/-! ### A pass -/

/-- What a pass makes of a part of a text: it lets a character stay, or it takes out an element. -/
inductive Piece
  | stays (c : Char)
  | goes (element : Element)

namespace Piece

def whole : Piece → List Char
  | stays c => [c]
  | goes element => element.text

def left : Piece → List Char
  | stays c => [c]
  | goes _ => []

end Piece

/-- The text that a pass began with. -/
def whole (pieces : List Piece) : List Char := pieces.flatMap Piece.whole

/-- The text that a pass leaves. -/
def left (pieces : List Piece) : List Char := pieces.flatMap Piece.left

/-- A pass from left to right: it takes out each element it comes upon, and a character stays where
none begins. -/
inductive Passed : List Piece → Prop
  | done : Passed []
  | goes {element : Element} {pieces : List Piece} (leads : element.Leads (whole pieces))
      (later : Passed pieces) : Passed (.goes element :: pieces)
  | stays {c : Char} {pieces : List Piece}
      (plain : ∀ (element : Element) (after : List Char), c :: whole pieces ≠ element.text ++ after)
      (later : Passed pieces) : Passed (.stays c :: pieces)

section pieces

variable (c : Char) (element : Element) (pieces more : List Piece)

@[simp] theorem whole_nil : whole [] = [] := rfl

@[simp] theorem whole_stays : whole (.stays c :: pieces) = c :: whole pieces := rfl

@[simp] theorem whole_goes : whole (.goes element :: pieces) = element.text ++ whole pieces := rfl

@[simp] theorem whole_append : whole (pieces ++ more) = whole pieces ++ whole more :=
  List.flatMap_append

@[simp] theorem left_nil : left [] = [] := rfl

@[simp] theorem left_stays : left (.stays c :: pieces) = c :: left pieces := rfl

@[simp] theorem left_goes : left (.goes element :: pieces) = left pieces := rfl

@[simp] theorem left_append : left (pieces ++ more) = left pieces ++ left more :=
  List.flatMap_append

end pieces

theorem exists_passed (text : List Char) : ∃ pieces, Passed pieces ∧ whole pieces = text := by
  fun_induction dropElements text with
  | case1 text rest found _ ih =>
    obtain ⟨pieces, passed, rfl⟩ := ih
    obtain ⟨element, rfl, leads⟩ := element?_eq_some found
    exact ⟨.goes element :: pieces, .goes leads passed, rfl⟩
  | case2 => exact ⟨[], .done, rfl⟩
  | case3 c rest none ih =>
    obtain ⟨pieces, passed, rfl⟩ := ih
    refine ⟨.stays c :: pieces, .stays (fun element after same => ?_) passed, rfl⟩
    rw [same] at none
    exact element?_ne_none element after none

theorem Passed.dropElements_eq {pieces : List Piece} (passed : Passed pieces) :
    dropElements (whole pieces) = left pieces := by
  induction passed with
  | done => exact dropElements_nil
  | goes leads _ ih =>
    rw [whole_goes, dropElements_of_some leads.element?_eq, ih, left_goes]
  | stays plain _ ih =>
    rw [whole_stays, dropElements_of_none, ih, left_stays]
    rw [← Option.not_isSome_iff_eq_none, Option.isSome_iff_exists]
    rintro ⟨after, found⟩
    obtain ⟨element, same, -⟩ := element?_eq_some found
    exact plain element after same

theorem Passed.later {front back : List Piece} (passed : Passed (front ++ back)) : Passed back := by
  induction front with
  | nil => exact passed
  | cons piece front ih => cases passed with
    | goes _ later => exact ih later
    | stays _ later => exact ih later

theorem left_split {pieces : List Piece} {front back : List Char}
    (split : left pieces = front ++ back) :
    ∃ before after, pieces = before ++ after ∧ left before = front ∧ left after = back := by
  induction pieces generalizing front with
  | nil =>
    obtain ⟨rfl, rfl⟩ := List.append_eq_nil_iff.mp split.symm
    exact ⟨[], [], rfl, rfl, rfl⟩
  | cons piece pieces ih =>
    cases piece with
    | goes element =>
      obtain ⟨before, after, rfl, rfl, rfl⟩ := ih split
      exact ⟨.goes element :: before, after, rfl, rfl, rfl⟩
    | stays c =>
      cases front with
      | nil => exact ⟨[], .stays c :: pieces, rfl, rfl, split⟩
      | cons d front =>
        obtain ⟨rfl, rest⟩ := List.cons.inj split
        obtain ⟨before, after, rfl, rfl, rfl⟩ := ih rest
        exact ⟨.stays c :: before, after, rfl, rfl, rfl⟩

/-! ### Elements that are put together -/

/-- An element is taken out between two characters that stay. -/
def Torn (pieces : List Piece) : Prop := ∃ front element back,
  pieces = front ++ .goes element :: back ∧ left front ≠ [] ∧ left back ≠ []

/-- An element is left, between `front` and `back`, whose name or closing tag comes together from both
sides of one that is taken out. -/
def Joined (front : List Char) (element : Element) (back : List Char) (pieces : List Piece) : Prop :=
  ∃ before start middle closing after,
    pieces = before ++ (start ++ (middle ++ (closing ++ after))) ∧
    left before = front ∧ left start = element.start ∧
    left middle = element.attributes ++ '>' :: element.body ∧
    left closing = element.closing ∧ left after = back ∧ (Torn start ∨ Torn closing)

theorem Torn.cons {pieces : List Piece} (torn : Torn pieces) (piece : Piece) :
    Torn (piece :: pieces) := by
  obtain ⟨front, element, back, rfl, front_left, back_left⟩ := torn
  refine ⟨piece :: front, element, back, rfl, ?_, back_left⟩
  cases piece
  · exact List.cons_ne_nil _ _
  · exact front_left

theorem eq_of_not_torn {pieces : List Piece} (together : ¬ Torn pieces) :
    ∃ before after, pieces = before ++ (left pieces).map .stays ++ after ∧
      left before = [] ∧ left after = [] := by
  induction pieces with
  | nil => exact ⟨[], [], rfl, rfl, rfl⟩
  | cons piece pieces ih =>
    obtain ⟨before, after, same, before_left, after_left⟩ :=
      ih fun torn => together (torn.cons piece)
    cases piece with
    | goes element =>
      refine ⟨.goes element :: before, after, ?_, before_left, after_left⟩
      rw [left_goes, List.cons_append, List.cons_append, ← same]
    | stays c =>
      by_cases last : left pieces = []
      · exact ⟨[], pieces, by simp [last], rfl, last⟩
      · cases before with
        | nil =>
          refine ⟨[], after, ?_, rfl, after_left⟩
          rw [left_stays, List.map_cons, List.nil_append, List.cons_append]
          exact congrArg _ same
        | cons first before =>
          cases first with
          | stays d => cases before_left
          | goes element =>
            have behind : left pieces = left (before ++ (left pieces).map .stays ++ after) := by
              conv => lhs; rw [same]
              rfl
            exact (together ⟨[.stays c], element, _, congrArg _ same, List.cons_ne_nil _ _,
              behind ▸ last⟩).elim

@[simp] theorem whole_stay (text : List Char) : whole (text.map .stays) = text := by
  induction text with
  | nil => rfl
  | cons c text ih => rw [List.map_cons, whole_stays, ih]

theorem left_sublist_whole (pieces : List Piece) : (left pieces).Sublist (whole pieces) := by
  induction pieces with
  | nil => exact List.Sublist.slnil
  | cons piece pieces ih =>
    cases piece with
    | stays c => exact ih.cons_cons c
    | goes element => exact ih.trans (List.sublist_append_right _ _)

theorem exists_attributes {middle : List Piece} {attributes body : List Char}
    (apart : continuesWord (attributes ++ ['>']) = false)
    (spelled : left middle = attributes ++ '>' :: body) :
    ∃ attributes' body', whole middle = attributes' ++ '>' :: body' ∧ '>' ∉ attributes' ∧
      continuesWord (attributes' ++ ['>']) = false := by
  have bracket : '>' ∈ whole middle :=
    (left_sublist_whole middle).subset (spelled ▸ List.mem_append_right _ List.mem_cons_self)
  obtain ⟨attributes', body', same, unclosed⟩ := List.eq_append_cons_of_mem bracket
  refine ⟨attributes', body', same, unclosed, ?_⟩
  rw [← continuesWord_append _ body', ← same]
  rw [← continuesWord_append _ body, ← spelled] at apart
  cases middle with
  | nil => rfl
  | cons piece middle => cases piece with
    | stays c => exact apart
    | goes element =>
      have bracket : isWord '<' = false := by decide
      exact bracket

/-- What is left as an element was none before, so it has been put together. -/
theorem Passed.joined_iff {pieces : List Piece} (passed : Passed pieces) (front : List Char)
    (element : Element) (back : List Char) :
    left pieces = front ++ element.text ++ back ↔ Joined front element back pieces := by
  constructor
  · intro split
    rw [element.text_eq, List.append_assoc, List.append_assoc, List.append_assoc] at split
    obtain ⟨before, _, rfl, rfl, fromName⟩ := left_split split
    obtain ⟨start, _, rfl, named, fromMiddle⟩ := left_split fromName
    obtain ⟨middle, _, rfl, inner, fromTag⟩ := left_split fromMiddle
    obtain ⟨closing, after, rfl, closes, rfl⟩ := left_split fromTag
    refine ⟨before, start, middle, closing, after, rfl, rfl, named, inner, closes, rfl, ?_⟩
    by_contra together
    rw [not_or] at together
    -- the name and the closing tag stood together before, with something taken out between them
    obtain ⟨ahead, behind, start_eq, ahead_left, behind_left⟩ := eq_of_not_torn together.1
    obtain ⟨ahead', behind', closing_eq, ahead_left', behind_left'⟩ := eq_of_not_torn together.2
    rw [named] at start_eq
    rw [closes] at closing_eq
    have around : left (behind ++ middle ++ ahead') = element.attributes ++ '>' :: element.body := by
      simp [behind_left, ahead_left', inner]
    obtain ⟨attributes, body, spelled, unclosed, apart⟩ := exists_attributes element.apart around
    -- the element that was there, which the pass would have taken out
    let other : Element := { element with attributes, body, apart, unclosed }
    have later := passed.later
    rw [start_eq, closing_eq, Element.start, List.map_cons, List.append_assoc, List.append_assoc]
      at later
    cases later.later with
    | stays plain _ =>
      apply plain other (whole (behind' ++ after))
      simp [other, Element.text_eq, Element.start, Element.closing, ← spelled]
  · rintro ⟨before, start, middle, closing, after, rfl, rfl, named, inner, closes, rfl, -⟩
    simp [named, inner, closes, element.text_eq]

/-! ### What is seen of the body -/

theorem dropTags_append {front : List Char} (ends : ∀ c ∈ front.getLast?, c = '>')
    (back : List Char) : dropTags (front ++ back) = dropTags front ++ dropTags back := by
  have shorter {ahead rest : List Char} (ends : ∀ c ∈ (ahead ++ rest).getLast?, c = '>') :
      ∀ c ∈ rest.getLast?, c = '>' := by
    intro c last
    apply ends c
    rw [List.getLast?_append, Option.mem_def.mp last]
    rfl
  fun_induction dropTags front with
  | case1 front rest found _ ih =>
    have longer : tag? (front ++ back) = some (rest ++ back) := by
      unfold tag? at found
      split at found
      · obtain ⟨attributes, rfl, unclosed⟩ := afterBracket?_eq_some_iff.mp found
        exact afterBracket?_eq_some_iff.mpr ⟨attributes, by simp, unclosed⟩
      · cases found
    obtain ⟨ahead, rfl⟩ := tag?_suffix found
    rw [dropTags_of_some longer, ih (shorter ends)]
  | case2 => rfl
  | case3 c rest missing ih =>
    have other : c ≠ '<' := by
      rintro rfl
      have unclosed : '>' ∉ rest := afterBracket?_eq_none missing
      rcases List.eq_nil_or_concat' rest with rfl | ⟨inner, last, rfl⟩
      · exact absurd (ends '<' rfl) (by decide)
      · have bracket := ends last (by rw [← List.cons_append, List.getLast?_concat]; rfl)
        exact unclosed (by simp [bracket])
    have ends' : ∀ c ∈ rest.getLast?, c = '>' := @shorter [c] rest ends
    rw [List.cons_append, dropTags_of_none (tag?_of_ne other _), ih ends']
    rfl

theorem Element.getLast?_opening (element : Element) : element.opening.getLast? = some '>' :=
  List.getLast?_concat

theorem Element.getLast?_closing (element : Element) : element.closing.getLast? = some '>' :=
  List.getLast?_concat (l := '<' :: '/' :: (element.closingName ++ element.blanks))

/-- A pass takes a text apart, and an element is left of it exactly where a name or a closing tag
comes together from both sides of an element that was taken out. What is seen then of the element is
its body, as if it stood alone. -/
theorem elements_left_iff_joined (text : List Char) :
    (∃ pieces, Passed pieces ∧ whole pieces = text) ∧
    (∀ pieces, Passed pieces → whole pieces = text → dropElements text = left pieces ∧
      ∀ front element back, dropElements text = front ++ element.text ++ back ↔
        Joined front element back pieces) ∧
    ∀ front (element : Element) back, dropElements text = front ++ element.text ++ back →
      strip text = dropTags (front ++ element.opening) ++
        (dropTags (element.body ++ element.closing) ++ dropTags back) ∧
      ('<' ∉ element.body → element.body <:+: strip text) := by
  refine ⟨exists_passed text, ?_, ?_⟩
  · rintro pieces passed rfl
    refine ⟨passed.dropElements_eq, fun front element back => ?_⟩
    rw [passed.dropElements_eq, passed.joined_iff]
  · intro front element back remains
    have opened : ∀ c ∈ (front ++ element.opening).getLast?, c = '>' := by
      simp [element.getLast?_opening]
    have closed : ∀ c ∈ (element.body ++ element.closing).getLast?, c = '>' := by
      simp [element.getLast?_closing]
    have seen : strip text = dropTags (front ++ element.opening) ++
        (dropTags (element.body ++ element.closing) ++ dropTags back) := by
      rw [strip, remains, ← dropTags_append closed, ← dropTags_append opened]
      simp [Element.text]
    refine ⟨seen, fun plain => ?_⟩
    rw [seen, dropTags_append_of_not_mem plain]
    exact ⟨dropTags (front ++ element.opening), dropTags element.closing ++ dropTags back, by simp⟩

/-- A script whose name another one splits is left whole, and its body is seen. -/
theorem split_script_is_left : ∃ element : Element,
    dropElements "<scr<script></script>ipt>alert(1)</script>".toList = element.text ∧
    element.body = "alert(1)".toList ∧
    strip "<scr<script></script>ipt>alert(1)</script>".toList = element.body := by
  refine ⟨{
    name := "script".toList
    attributes := []
    body := "alert(1)".toList
    closingName := "script".toList
    blanks := []
    named := ⟨"script".toList, List.mem_cons_self, List.forall₂_same.mpr
      ((List.all_eq_true (p := fun c => sameLetter c c)).mp (by decide))⟩
    apart := by decide
    unclosed := List.not_mem_nil
    closes := List.forall₂_same.mpr fun _ _ => rfl
    blank := fun _ member => absurd member List.not_mem_nil }, ?_, rfl, ?_⟩
  · decide +kernel
  · decide +kernel

end Parley.Markup
