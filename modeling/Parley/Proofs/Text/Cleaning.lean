import Mathlib.Data.List.DropRight
import Parley.Reply
import Parley.Template

/-!
What cleaning a reply guarantees, whatever was typed: what is left holds no placeholder and no tag,
no control character but those that lay out text, and no white space at its ends.
-/

namespace Parley

open Text

/-! ### Tags -/

namespace Markup

theorem spelled?_suffix {name text taken rest : List Char}
    (found : spelled? name text = some (taken, rest)) : rest <:+ text := by
  induction name generalizing text taken with
  | nil =>
    cases found
    exact List.suffix_refl _
  | cons letter name ih =>
    cases text with
    | nil => cases found
    | cons c text =>
      rw [spelled?] at found
      split at found
      · obtain ⟨⟨taken', rest'⟩, inner, same⟩ := Option.map_eq_some_iff.mp found
        cases same
        exact (ih inner).trans (List.suffix_cons c text)
      · cases found

theorem dropName?_suffix {name text rest : List Char} (found : dropName? name text = some rest) :
    rest <:+ text := by
  induction name generalizing text with
  | nil =>
    cases found
    exact List.suffix_refl _
  | cons letter name ih =>
    cases text with
    | nil => cases found
    | cons c text =>
      rw [dropName?] at found
      split at found
      · exact (ih found).trans (List.suffix_cons c text)
      · cases found

theorem afterBracket?_suffix {text rest : List Char} (found : afterBracket? text = some rest) :
    rest <:+ text := by
  induction text with
  | nil => cases found
  | cons c text ih =>
    rw [afterBracket?] at found
    split at found
    · cases found
      exact List.suffix_cons c _
    · exact (ih found).trans (List.suffix_cons c text)

theorem afterBracket?_eq_none {text : List Char} (unclosed : afterBracket? text = none) :
    '>' ∉ text := by
  induction text with
  | nil => exact List.not_mem_nil
  | cons c text ih =>
    rw [afterBracket?] at unclosed
    split at unclosed
    · cases unclosed
    · rename_i other
      rw [List.mem_cons, not_or]
      exact ⟨Ne.symm other, ih unclosed⟩

theorem afterClosing?_suffix {name text rest : List Char}
    (found : afterClosing? name text = some rest) : rest <:+ text := by
  unfold afterClosing? at found
  split at found
  · rename_i inner
    split at found
    · rename_i after dropped
      have blanks := List.dropWhile_suffix (l := after) isBlank
      split at found
      · rename_i last closing
        cases found
        rw [closing] at blanks
        exact (((List.suffix_cons '>' _).trans blanks).trans (dropName?_suffix dropped)).trans
          (List.suffix_append ['<', '/'] inner)
      · cases found
    · cases found
  · cases found

theorem afterElement?_suffix {name text rest : List Char}
    (found : afterElement? name text = some rest) : rest <:+ text := by
  induction text with
  | nil => cases found
  | cons c text ih =>
    rw [afterElement?] at found
    split at found
    · rename_i after closing
      cases found
      exact afterClosing?_suffix closing
    · exact (ih found).trans (List.suffix_cons c text)

theorem opening?_suffix {text name content : List Char}
    (found : opening? text = some (name, content)) : content <:+ text := by
  unfold opening? at found
  split at found
  · rename_i rest
    obtain ⟨element, _, inner⟩ := List.exists_of_findSome?_eq_some found
    split at inner
    · rename_i taken after spelled
      split at inner
      · cases inner
      · obtain ⟨content', bracket, same⟩ := Option.map_eq_some_iff.mp inner
        cases same
        exact ((afterBracket?_suffix bracket).trans (spelled?_suffix spelled)).trans
          (List.suffix_cons '<' rest)
    · cases inner
  · cases found

theorem element?_suffix {text rest : List Char} (found : element? text = some rest) :
    rest <:+ text := by
  unfold element? at found
  split at found
  · rename_i name content opened
    exact (afterElement?_suffix found).trans (opening?_suffix opened)
  · cases found

theorem dropElements_sublist (text : List Char) : (dropElements text).Sublist text := by
  fun_induction dropElements text with
  | case1 text rest found _ ih => exact ih.trans (element?_suffix found).sublist
  | case2 => exact List.Sublist.slnil
  | case3 c rest _ ih => exact ih.cons_cons c

theorem tag?_suffix {text rest : List Char} (found : tag? text = some rest) : rest <:+ text := by
  unfold tag? at found
  split at found
  · rename_i inner
    exact (afterBracket?_suffix found).trans (List.suffix_cons '<' inner)
  · cases found

theorem dropTags_sublist (text : List Char) : (dropTags text).Sublist text := by
  fun_induction dropTags text with
  | case1 text rest found _ ih => exact ih.trans (tag?_suffix found).sublist
  | case2 => exact List.Sublist.slnil
  | case3 c rest _ ih => exact ih.cons_cons c

/-- No opening bracket is followed by a closing one, near or far. -/
def Untagged (text : List Char) : Prop := ¬ ['<', '>'].Sublist text

theorem dropTags_untagged (text : List Char) : Untagged (dropTags text) := by
  fun_induction dropTags text with
  | case1 text rest found _ ih => exact ih
  | case2 => exact fun tagged => nomatch tagged
  | case3 c rest none ih =>
    intro tagged
    rcases List.sublist_cons_iff.mp tagged with inside | ⟨closing, same, inside⟩
    · exact ih inside
    · -- an opening bracket was kept, so no closing one comes after it
      cases same
      have closes : '>' ∈ rest :=
        (dropTags_sublist rest).subset (List.singleton_sublist.mp inside)
      exact afterBracket?_eq_none none closes

theorem strip_sublist (text : List Char) : (strip text).Sublist text :=
  (dropTags_sublist _).trans (dropElements_sublist text)

end Markup

/-! ### White space -/

namespace Text

theorem trimEnd_front (text : List Char) : trimEnd text <+: text := by
  rw [trimEnd, ← List.reverse_suffix, List.reverse_reverse]
  exact List.dropWhile_suffix isBlank

theorem trimStart_suffix (text : List Char) : trimStart text <:+ text :=
  List.dropWhile_suffix isBlank

theorem trim_infix (text : List Char) : trim text <:+: text :=
  (trimEnd_front _).isInfix.trans (trimStart_suffix text).isInfix

/-- A text that neither begins nor ends with white space. -/
structure Trimmed (text : List Char) : Prop where
  first : ∀ c ∈ text.head?, isBlank c = false
  last : ∀ c ∈ text.getLast?, isBlank c = false

theorem head?_dropWhile (text : List Char) : ∀ c ∈ (text.dropWhile isBlank).head?,
    isBlank c = false := by
  intro c first
  have stops := List.head?_dropWhile_not isBlank text
  rw [Option.mem_def.mp first] at stops
  simpa using stops

theorem trim_trimmed (text : List Char) : Trimmed (trim text) where
  first c found := by
    obtain ⟨rest, whole⟩ := trimEnd_front (trimStart text)
    apply head?_dropWhile text c
    change c ∈ (trimStart text).head?
    rw [← whole, List.head?_append]
    rw [trim] at found
    rw [Option.mem_def.mp found]
    rfl
  last c found := by
    rw [trim, trimEnd, List.getLast?_reverse] at found
    exact head?_dropWhile _ c found

end Text

/-! ### Placeholders -/

namespace Template

/-- A text in which no placeholder stands, whatever its name. -/
def Inert (marks : Marks) (text : List Char) : Prop :=
  ∀ name : List Char, name ≠ [] → (∀ c ∈ name, isWord c = true) →
    ¬ asPlaceholder marks name <:+: text

theorem Inert.mono {marks : Marks} {text part : List Char} (inert : Inert marks text)
    (inside : part <:+: text) : Inert marks part :=
  fun name named words stands => inert name named words (stands.trans inside)

theorem placeholder?_spells {marks : Marks} {text name after : List Char}
    (found : placeholder? marks text = some (name, after)) :
    name ≠ [] ∧ (∀ c ∈ name, isWord c = true) ∧ text = asPlaceholder marks name ++ after := by
  unfold placeholder? at found
  dsimp only at found
  split at found
  · rename_i holds
    simp only [Bool.and_eq_true, Bool.not_eq_true', List.isEmpty_eq_false_iff] at holds
    obtain ⟨⟨opens, named⟩, closes⟩ := holds
    cases found
    refine ⟨named, fun c member => List.mem_takeWhile_imp member, ?_⟩
    obtain ⟨inside, rfl⟩ := List.isPrefixOf_iff_prefix.mp opens
    rw [List.drop_left] at closes ⊢
    obtain ⟨after, closed⟩ := List.isPrefixOf_iff_prefix.mp closes
    rw [← closed, List.drop_left, asPlaceholder, List.append_assoc, List.append_assoc, closed,
      List.takeWhile_append_dropWhile]
  · cases found

theorem fillChars_of_inert {marks : Marks} {value? : String → Option String} {text : List Char}
    (inert : Inert marks text) : fillChars marks value? text = text := by
  fun_induction fillChars marks value? text with
  | case1 text name after found _ _ =>
    obtain ⟨named, words, spelled⟩ := placeholder?_spells found
    exact absurd ⟨[], after, spelled.symm⟩ (inert name named words)
  | case2 => rfl
  | case3 c rest _ ih => rw [ih (inert.mono (List.suffix_cons c rest).isInfix)]

end Template

/-! ### Braces -/

namespace Reply

theorem filter_splitPairs (brace : Char) (text : List Char) :
    (splitPairs brace text).filter (· != ' ') = text.filter (· != ' ') := by
  fun_induction splitPairs brace text with
  | case1 a b rest _ ih => simp only [List.filter_cons, bne_self_eq_false, ih]; rfl
  | case2 a b rest _ ih => rw [List.filter_cons, ih, List.filter_cons (x := a)]
  | case3 => rfl

theorem mem_splitPairs {brace c : Char} {text : List Char} (member : c ∈ splitPairs brace text) :
    c ∈ text ∨ c = ' ' := by
  fun_induction splitPairs brace text with
  | case1 a b rest _ ih =>
    simp only [List.mem_cons] at member ⊢
    rcases member with first | space | second | rest
    · exact Or.inl (Or.inl first)
    · exact Or.inr space
    · exact Or.inl (Or.inr (Or.inl second))
    · exact (ih rest).imp_left fun inside => Or.inr (Or.inr inside)
  | case2 a b rest _ ih =>
    rcases List.mem_cons.mp member with first | rest
    · exact Or.inl (List.mem_cons.mpr (Or.inl first))
    · exact (ih rest).imp_left (List.mem_cons_of_mem a)
  | case3 => exact Or.inl member

theorem head?_splitPairs (brace : Char) (text : List Char) :
    (splitPairs brace text).head? = text.head? := by
  fun_cases splitPairs brace text <;> rfl

/-- A split text does not begin with a pair, since the scan meets that first. -/
theorem splitPairs_unpaired {brace : Char} (solid : brace ≠ ' ') (text : List Char) :
    ¬ [brace, brace] <+: splitPairs brace text := by
  fun_cases splitPairs brace text with
  | case1 a b rest pair =>
    intro begins
    exact solid (List.cons_prefix_cons.mp (List.cons_prefix_cons.mp begins).2).1
  | case2 a b rest unpaired =>
    intro begins
    obtain ⟨first, more⟩ := List.cons_prefix_cons.mp begins
    obtain ⟨tail, second⟩ := more
    have same := head?_splitPairs brace (b :: rest)
    rw [← second] at same
    exact unpaired ⟨first.symm, (Option.some.inj same).symm⟩
  | case3 =>
    rename_i single
    rintro ⟨rest, whole⟩
    exact single brace brace rest whole.symm

theorem splitPairs_before {brace c : Char} (solid : brace ≠ ' ') {text : List Char}
    (pair : [c, brace, brace] <:+: splitPairs brace text) : c = ' ' ∨ c = brace := by
  fun_induction splitPairs brace text with
  | case1 a b rest same ih =>
    rcases List.infix_cons_iff.mp pair with here | later
    · exact absurd (List.cons_prefix_cons.mp (List.cons_prefix_cons.mp here).2).1 solid
    rcases List.infix_cons_iff.mp later with here | later
    · exact Or.inl (List.cons_prefix_cons.mp here).1
    rcases List.infix_cons_iff.mp later with here | later
    · exact Or.inr ((List.cons_prefix_cons.mp here).1.trans same.2)
    · exact ih later
  | case2 a b rest _ ih =>
    rcases List.infix_cons_iff.mp pair with here | later
    · exact absurd (List.cons_prefix_cons.mp here).2 (splitPairs_unpaired solid _)
    · exact ih later
  | case3 text single =>
    match text, single, pair with
    | [], _, pair => exact absurd pair.length_le (by simp)
    | [_], _, pair => exact absurd pair.length_le (by simp)
    | a :: b :: rest, single, _ => exact (single a b rest rfl).elim

/-- No name is followed by a pair of closing braces, so there is no placeholder. The opening braces
alone would not do: of three the scan leaves the last two together. -/
theorem breakBraces_inert (text : List Char) : Template.Inert Template.braces (breakBraces text) := by
  intro name named words stands
  obtain ⟨start, last, rfl⟩ := name.eq_nil_or_concat'.resolve_left named
  have word : isWord last = true := words last (by simp)
  have pair : [last, '}', '}'] <:+: breakBraces text := by
    refine List.IsInfix.trans ?_ stands
    exact ⟨['{', '{'] ++ start, [], by simp [Template.asPlaceholder, Template.braces]⟩
  rcases splitPairs_before (by decide) pair with space | brace
  · rw [space] at word
    exact absurd word (by decide)
  · rw [brace] at word
    exact absurd word (by decide)

example : breakBraces "{{{name}}}".toList = "{ {{name} }}".toList := by decide

theorem breakBraces_untagged {text : List Char} (untagged : Markup.Untagged text) :
    Markup.Untagged (breakBraces text) := by
  intro tagged
  have solid := tagged.filter (· != ' ')
  rw [breakBraces, filter_splitPairs, filter_splitPairs] at solid
  exact untagged (solid.trans List.filter_sublist)

/-! ### The whole -/

/-- What holds of every value that a reply gives to a variable. -/
structure Harmless (value : String) : Prop where
  inert : Template.Inert Template.braces value.toList
  untagged : Markup.Untagged value.toList
  kept : ∀ c ∈ value.toList, isKept c = true
  trimmed : Trimmed value.toList

theorem clean_harmless (reply : String) : Harmless (clean reply) := by
  rw [clean, cleanChars]
  generalize cut_eq : cut maxLength (reply.toList.filter isKept) = typed
  have inside := trim_infix (breakBraces (Markup.strip typed))
  have allowed : ∀ c ∈ typed, isKept c = true := by
    intro c member
    have sub : typed.Sublist (reply.toList.filter isKept) := by
      rw [← cut_eq, cut]
      split
      · exact List.Sublist.refl _
      · split <;> exact List.take_sublist _ _
    exact (List.mem_filter.mp (sub.subset member)).2
  constructor <;> rw [String.toList_ofList]
  · exact (breakBraces_inert _).mono inside
  · exact fun tagged => breakBraces_untagged (Markup.dropTags_untagged _)
      (tagged.trans inside.sublist)
  · intro c member
    rcases mem_splitPairs (inside.subset member) with left | rfl
    · rcases mem_splitPairs left with left | rfl
      · exact allowed c ((Markup.strip_sublist typed).subset left)
      · rfl
    · rfl
  · exact trim_trimmed _

theorem Harmless.fill_eq {value : String} (harmless : Harmless value)
    (value? : String → Option String) : Template.fill value? value = value := by
  rw [Template.fill, Template.fillMarks, Template.fillChars_of_inert harmless.inert,
    String.ofList_toList]

end Reply

end Parley

/-! ## Filling with nothing

When a message comes to nothing: if it is made of placeholders alone, for variables that are there and
empty.
-/

namespace Parley.Template

open Text

variable {value? : String → Option String}

/-- Placeholders and nothing else, all of them for empty values. -/
def Vanishes (value? : String → Option String) (text : List Char) : Prop :=
  ∃ names : List (List Char), text = names.flatMap (asPlaceholder braces) ∧
    ∀ name ∈ names, name ≠ [] ∧ (∀ c ∈ name, isWord c = true) ∧
      value? (String.ofList name) = some ""

theorem placeholder?_marked {marks : Marks} {c : Char} {more name : List Char}
    (closing : marks.closing = c :: more) (closed : isWord c = false) (named : name ≠ [])
    (words : ∀ c ∈ name, isWord c = true) (after : List Char) :
    placeholder? marks (asPlaceholder marks name ++ after) = some (name, after) := by
  have inside : (asPlaceholder marks name ++ after).drop marks.opening.length =
      name ++ (marks.closing ++ after) := by
    rw [asPlaceholder, List.append_assoc, List.append_assoc, List.drop_left]
  have opens : marks.opening.isPrefixOf (asPlaceholder marks name ++ after) = true := by
    rw [List.isPrefixOf_iff_prefix, asPlaceholder, List.append_assoc, List.append_assoc]
    exact List.prefix_append ..
  have taken : (name ++ (marks.closing ++ after)).takeWhile isWord = name := by
    rw [List.takeWhile_append_of_pos words]
    simp [closing, closed]
  have rest : (name ++ (marks.closing ++ after)).dropWhile isWord = marks.closing ++ after := by
    rw [List.dropWhile_append_of_pos words]
    simp [closing, closed]
  have closes : marks.closing.isPrefixOf (marks.closing ++ after) = true := by
    rw [List.isPrefixOf_iff_prefix]
    exact List.prefix_append ..
  unfold placeholder?
  dsimp only
  rw [inside, taken, rest, opens, closes, List.drop_left, if_pos (by simp [named])]

theorem placeholder?_asPlaceholder {name : List Char} (named : name ≠ [])
    (words : ∀ c ∈ name, isWord c = true) (after : List Char) :
    placeholder? braces (asPlaceholder braces name ++ after) = some (name, after) :=
  placeholder?_marked rfl (by decide) named words after

theorem fillChars_placeholder {name : List Char} (named : name ≠ [])
    (words : ∀ c ∈ name, isWord c = true) (after : List Char) :
    fillChars braces value? (asPlaceholder braces name ++ after) =
      ((value? (String.ofList name)).map String.toList).getD (asPlaceholder braces name) ++
        fillChars braces value? after := by
  have stands := placeholder?_asPlaceholder named words after
  rw [fillChars]
  split
  · rename_i found
    cases stands.symm.trans found
    rfl
  · rename_i missing
    cases stands.symm.trans missing

theorem vanishes_of_fillChars {text : List Char} (empty : fillChars braces value? text = []) :
    Vanishes value? text := by
  fun_induction fillChars braces value? text with
  | case1 text name after found less ih =>
    obtain ⟨own, later⟩ := List.append_eq_nil_iff.mp empty
    obtain ⟨named, words, spelled⟩ := placeholder?_spells found
    obtain ⟨names, rfl, each⟩ := ih later
    have value : value? (String.ofList name) = some "" := by
      cases known : value? (String.ofList name) with
      | none => simp [known, asPlaceholder, braces] at own
      | some said => simpa [known] using own
    refine ⟨name :: names, spelled, fun other member => ?_⟩
    rcases List.mem_cons.mp member with rfl | member
    · exact ⟨named, words, value⟩
    · exact each other member
  | case2 => exact ⟨[], rfl, fun _ member => absurd member List.not_mem_nil⟩
  | case3 => cases empty

theorem fillChars_of_vanishes {text : List Char} (vanishes : Vanishes value? text) :
    fillChars braces value? text = [] := by
  obtain ⟨names, rfl, each⟩ := vanishes
  induction names with
  | nil =>
    rw [List.flatMap_nil, fillChars]
    rfl
  | cons name names ih =>
    obtain ⟨named, words, value⟩ := each name List.mem_cons_self
    rw [List.flatMap_cons, fillChars_placeholder named words, value,
      ih fun other member => each other (List.mem_cons_of_mem _ member)]
    rfl

theorem fill_eq_empty_iff {text : String} :
    fill value? text = "" ↔ Vanishes value? text.toList := by
  have chars : fill value? text = "" ↔ fillChars braces value? text.toList = [] := by
    rw [fill, fillMarks, String.ofList_eq_empty_iff]
  exact chars.trans ⟨vanishes_of_fillChars, fillChars_of_vanishes⟩

end Parley.Template
