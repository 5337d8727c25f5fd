import Mathlib.Data.List.Infix
import Parley.Proofs.Text.Cleaning
import Parley.Text.Lowercase

/-!
How a text is made ready for comparison: lower case, and no white space at its ends.
-/

/-! ## Lower case of a piece of a text

All its characters are mapped as they would be in the piece alone, but for a capital sigma whose
form depends on the letters around the piece; white space around the text plays no part.
-/

namespace Parley.Text

/-! ### A piece of a text -/

/-- The lower case of a piece of a text, where `before` holds the characters in front of it, nearest
first, and `after` those behind it. -/
def lowerWithin (before after : List Char) : List Char → List Char
  | [] => []
  | c :: rest =>
    (if c = capitalSigma then [lowerSigma before (rest ++ after)] else lowerChar c) ++
      lowerWithin (c :: before) after rest

theorem lowerAfter_append (before piece after : List Char) :
    lowerAfter before (piece ++ after) =
      lowerWithin before after piece ++ lowerAfter (piece.reverse ++ before) after := by
  induction piece generalizing before with
  | nil => rfl
  | cons c rest ih =>
    rw [List.cons_append, lowerAfter, lowerWithin, ih, List.append_assoc, List.reverse_cons,
      List.append_assoc]
    rfl

theorem lower_eq_within (piece : List Char) : lower piece = lowerWithin [] [] piece := by
  have whole := lowerAfter_append [] piece []
  rwa [List.append_nil, lowerAfter, List.append_nil] at whole

theorem lower_append_append (front piece back : List Char) :
    lower (front ++ piece ++ back) = lowerWithin [] (piece ++ back) front ++
      lowerWithin front.reverse back piece ++ lowerAfter (piece.reverse ++ front.reverse) back := by
  rw [lower, List.append_assoc, lowerAfter_append, lowerAfter_append, List.append_nil,
    List.append_assoc]

theorem lowerChar_length_pos (c : Char) : 0 < (lowerChar c).length := by
  rw [lowerChar]
  split <;> exact Nat.zero_lt_succ _

theorem lower_ne_nil {text : List Char} (some : text ≠ []) : lower text ≠ [] := by
  cases text with
  | nil => exact absurd rfl some
  | cons c rest =>
    rw [lower, lowerAfter]
    split
    · exact List.cons_ne_nil _ _
    · exact List.append_ne_nil_of_left_ne_nil (List.ne_nil_of_length_pos (lowerChar_length_pos c)) _

theorem lowerWithin_length (before after before' after' piece : List Char) :
    (lowerWithin before after piece).length = (lowerWithin before' after' piece).length := by
  induction piece generalizing before before' with
  | nil => rfl
  | cons c rest ih =>
    rw [lowerWithin, lowerWithin, List.length_append, List.length_append, ih (c :: before)]
    split <;> rfl

/-! ### Sigmas -/

/-- Each capital sigma of a piece takes the form that it takes in the piece alone. -/
def SigmasStay (before after piece : List Char) : Prop :=
  ∀ front back, piece = front ++ capitalSigma :: back →
    lowerSigma (front.reverse ++ before) (back ++ after) = lowerSigma front.reverse back

theorem lowerWithin_eq_iff (before after before' after' piece : List Char) :
    lowerWithin before after piece = lowerWithin before' after' piece ↔
      ∀ front back, piece = front ++ capitalSigma :: back →
        lowerSigma (front.reverse ++ before) (back ++ after) =
          lowerSigma (front.reverse ++ before') (back ++ after') := by
  induction piece generalizing before before' with
  | nil => simp [lowerWithin]
  | cons c rest ih =>
    have later := ih (c :: before) (c :: before')
    rw [lowerWithin, lowerWithin]
    constructor
    · intro same front back split
      obtain ⟨here, there⟩ := List.append_inj same (by split <;> rfl)
      cases front with
      | nil =>
        cases split
        rw [if_pos rfl, if_pos rfl] at here
        exact List.singleton_inj.mp here
      | cons first front =>
        cases split
        have stay := later.mp there front back rfl
        simpa using stay
    · intro stay
      have there : lowerWithin (c :: before) after rest = lowerWithin (c :: before') after' rest := by
        refine later.mpr fun front back split => ?_
        have further := stay (c :: front) back (by rw [split, List.cons_append])
        simpa using further
      rw [there]
      by_cases sigma : c = capitalSigma
      · subst sigma
        rw [if_pos rfl, if_pos rfl]
        exact congrArg (fun c => [c] ++ _) (stay [] rest rfl)
      · rw [if_neg sigma, if_neg sigma]

/-- A piece has its own lower case exactly where its sigmas stay as they are. -/
theorem lowerWithin_eq_lower_iff {before after piece : List Char} :
    lowerWithin before after piece = lower piece ↔ SigmasStay before after piece := by
  rw [lower_eq_within, lowerWithin_eq_iff]
  simp only [List.append_nil, SigmasStay]

instance (before after piece : List Char) : Decidable (SigmasStay before after piece) :=
  decidable_of_iff _ lowerWithin_eq_lower_iff

/-! ### White space around a text -/

theorem not_isCased_of_isBlank {c : Char} (blank : isBlank c = true) : isCased c = false := by
  have apart : ∀ gap ∈ blankRanges, ∀ letters ∈ casedRanges, gap.2 < letters.1 ∨ letters.2 < gap.1 := by
    decide +kernel
  obtain ⟨gap, listed, low, high⟩ := inRanges_eq_true_iff.mp blank
  refine Bool.eq_false_iff.mpr fun cased => ?_
  obtain ⟨letters, among, first, last⟩ := inRanges_eq_true_iff.mp cased
  have away := apart gap listed letters among
  omega

theorem meetsCased_append (text more : List Char) :
    meetsCased (text ++ more) =
      if text.all isCaseIgnorable then meetsCased more else meetsCased text := by
  induction text with
  | nil => rfl
  | cons c rest ih =>
    cases skipped : isCaseIgnorable c with
    | true =>
      have step (text : List Char) : meetsCased (c :: text) = meetsCased text := by
        rw [meetsCased, List.dropWhile_cons_of_pos skipped, meetsCased]
      rw [List.cons_append, step, step, ih, List.all_cons, skipped, Bool.true_and]
    | false =>
      have stops (text : List Char) : meetsCased (c :: text) = isCased c := by
        rw [meetsCased, List.dropWhile_cons_of_neg (by simp [skipped])]
      rw [List.cons_append, stops, stops, List.all_cons, skipped, Bool.false_and,
        if_neg Bool.false_ne_true]

theorem meetsCased_blanks {blanks : List Char} (blank : ∀ c ∈ blanks, isBlank c = true)
    (text : List Char) : meetsCased (text ++ blanks) = meetsCased text := by
  have nothing : meetsCased blanks = false := by
    rw [meetsCased]
    split
    · rfl
    · rename_i c rest first
      have inside : c ∈ blanks.dropWhile isCaseIgnorable := first ▸ List.mem_cons_self
      exact not_isCased_of_isBlank (blank c ((List.dropWhile_sublist _).subset inside))
  rw [meetsCased_append, nothing]
  split
  · rename_i skipped
    rw [meetsCased, List.dropWhile_eq_nil_iff.mpr (List.all_eq_true.mp skipped)]
  · rfl

end Parley.Text

/-! ## Trimming

White space at the ends of a text: what is cut off by trimming, and what is left.
-/

namespace Parley.Text

theorem trimStart_split (text : List Char) :
    ∃ blanks, text = blanks ++ trimStart text ∧ ∀ c ∈ blanks, isBlank c = true :=
  ⟨text.takeWhile isBlank, List.takeWhile_append_dropWhile.symm, fun _ => List.mem_takeWhile_imp⟩

theorem trimEnd_split (text : List Char) :
    ∃ blanks, text = trimEnd text ++ blanks ∧ ∀ c ∈ blanks, isBlank c = true := by
  obtain ⟨blanks, whole, blank⟩ := trimStart_split text.reverse
  refine ⟨blanks.reverse, ?_, fun c member => blank c (List.mem_reverse.mp member)⟩
  have back := congrArg List.reverse whole
  rwa [List.reverse_reverse, List.reverse_append] at back

theorem trim_split (text : List Char) :
    ∃ front back, text = front ++ trim text ++ back ∧ (∀ c ∈ front, isBlank c = true) ∧
      ∀ c ∈ back, isBlank c = true := by
  obtain ⟨front, whole, blank⟩ := trimStart_split text
  obtain ⟨back, rest, blank'⟩ := trimEnd_split (trimStart text)
  refine ⟨front, back, ?_, blank, blank'⟩
  rw [List.append_assoc, trim, ← rest, ← whole]

theorem trim_ne_nil_iff {text : List Char} :
    trim text ≠ [] ↔ ∃ c ∈ text, isBlank c = false := by
  obtain ⟨front, back, whole, blank, blank'⟩ := trim_split text
  constructor
  · intro some
    obtain ⟨c, rest, kept⟩ := List.exists_cons_of_ne_nil some
    have inside := trim_infix text
    refine ⟨c, inside.subset (kept ▸ List.mem_cons_self), ?_⟩
    exact (trim_trimmed text).first c (by rw [kept]; rfl)
  · rintro ⟨c, member, solid⟩ none
    rw [whole, none, List.append_nil] at member
    rcases List.mem_append.mp member with inFront | inBack
    · exact Bool.false_ne_true (solid.symm.trans (blank c inFront))
    · exact Bool.false_ne_true (solid.symm.trans (blank' c inBack))

theorem trim_around {piece : List Char} (trimmed : Trimmed piece) (some : piece ≠ [])
    (front back : List Char) :
    trim (front ++ piece ++ back) = trimStart front ++ piece ++ trimEnd back := by
  have start (front : List Char) {piece : List Char} (some : piece ≠ [])
      (first : ∀ c ∈ piece.head?, isBlank c = false) (rest : List Char) :
      trimStart (front ++ (piece ++ rest)) = trimStart front ++ (piece ++ rest) := by
    obtain ⟨c, more, rfl⟩ := List.exists_cons_of_ne_nil some
    have stays : trimStart (c :: (more ++ rest)) = c :: (more ++ rest) :=
      List.dropWhile_cons_of_neg (by simp [first c rfl])
    obtain ⟨blanks, whole, blank⟩ := trimStart_split front
    rw [trimStart] at stays
    rw [trimStart, trimStart, List.dropWhile_append, List.cons_append, stays]
    split
    · rename_i gone
      rw [List.isEmpty_iff.mp gone, List.nil_append]
    · rfl
  have last : ∀ c ∈ piece.reverse.head?, isBlank c = false := by
    rw [List.head?_reverse]
    exact trimmed.last
  rw [trim, List.append_assoc, start front some trimmed.first back, trimEnd]
  rw [List.reverse_append, List.reverse_append, List.append_assoc]
  have back := start back.reverse (List.reverse_ne_nil_iff.mpr some) last (trimStart front).reverse
  rw [trimStart] at back
  rw [back, List.reverse_append, List.reverse_append, List.reverse_reverse, List.reverse_reverse]
  rfl

theorem trimEnd_eq_self_iff {text : List Char} :
    trimEnd text = text ↔ ∀ c ∈ text.getLast?, isBlank c = false := by
  constructor
  · intro same c last
    have stops := head?_dropWhile text.reverse
    rw [← same, trimEnd, List.getLast?_reverse] at last
    exact stops c last
  · intro solid
    rw [← List.head?_reverse] at solid
    rw [trimEnd]
    cases back : text.reverse with
    | nil => rw [List.dropWhile_nil, List.reverse_nil, List.reverse_eq_nil_iff.mp back]
    | cons c rest =>
      rw [back] at solid
      rw [List.dropWhile_cons_of_neg (by simp [solid c rfl]), ← back, List.reverse_reverse]

end Parley.Text
