import Mathlib.Data.List.Infix
import Parley.Proofs.Text.Cleaning

/-!
How far double braces are broken up. Spaces come between adjacent equal braces and nowhere else, but
the scan takes braces in pairs: of three in a row the third meets the second of the pair before it,
and these two stay together until the text is broken up once more.
-/

namespace Parley.Reply

/-! ### Spaces between braces -/

/-- A text with a space between some of its adjacent equal braces. -/
inductive Loosened : List Char → List Char → Prop where
  | nil : Loosened [] []
  | keep (c : Char) {text looser : List Char} (rest : Loosened text looser) :
    Loosened (c :: text) (c :: looser)
  | split {brace : Char} {text looser : List Char} (isBrace : brace ∈ ['{', '}'])
    (rest : Loosened (brace :: text) looser) :
    Loosened (brace :: brace :: text) (brace :: ' ' :: looser)

theorem ne_space_of_brace {brace : Char} (isBrace : brace ∈ ['{', '}']) : brace ≠ ' ' := by
  rintro rfl
  exact absurd isBrace (by decide)

namespace Loosened

variable {text looser loosest : List Char}

theorem refl (text : List Char) : Loosened text text := by
  induction text with
  | nil => exact .nil
  | cons c rest ih => exact .keep c ih

theorem head? (loosened : Loosened text looser) : looser.head? = text.head? := by
  cases loosened <;> rfl

theorem sublist (loosened : Loosened text looser) : text.Sublist looser := by
  induction loosened with
  | nil => exact List.Sublist.slnil
  | keep c _ ih => exact ih.cons_cons c
  | split _ _ ih => exact (ih.cons ' ').cons_cons _

/-- A space that is put in stays in, and keeps the braces on both sides of it apart. -/
theorem trans (first : Loosened text looser) (second : Loosened looser loosest) :
    Loosened text loosest := by
  induction first generalizing loosest with
  | nil => exact second
  | @keep c text looser rest ih =>
    cases second with
    | keep _ more => exact .keep c (ih more)
    | split isBrace more =>
      have begins := rest.head?
      obtain _ | ⟨d, text⟩ := text
      · cases begins
      · cases begins
        exact .split isBrace (ih more)
  | split isBrace _ ih =>
    cases second with
    | keep _ more =>
      cases more with
      | keep _ more => exact .split isBrace (ih more)
      | split isSpace _ => exact absurd rfl (ne_space_of_brace isSpace)
    | split isBrace _ => exact absurd rfl (ne_space_of_brace isBrace)

theorem antisymm (first : Loosened text looser) (second : Loosened looser text) : text = looser :=
  first.sublist.antisymm second.sublist

end Loosened

theorem splitPairs_loosened {brace : Char} (isBrace : brace ∈ ['{', '}']) (text : List Char) :
    Loosened text (splitPairs brace text) := by
  fun_induction splitPairs brace text with
  | case1 a b rest same ih =>
    obtain ⟨rfl, rfl⟩ := same
    exact .split isBrace (.keep b ih)
  | case2 a b rest _ ih => exact .keep a ih
  | case3 text => exact .refl text

theorem breakBraces_loosened (text : List Char) : Loosened text (breakBraces text) :=
  (splitPairs_loosened (by decide) text).trans (splitPairs_loosened (by decide) _)

/-! ### Braces in a row

What a scan for one kind of brace leaves of the braces that stand side by side.
-/

variable {brace : Char} {text needle : List Char}

theorem prefix_splitPairs_iff (absent : brace ∉ needle) :
    needle <+: splitPairs brace text ↔ needle <+: text := by
  fun_induction splitPairs brace text generalizing needle with
  | case1 a b rest same ih =>
    obtain ⟨rfl, rfl⟩ := same
    cases needle with
    | nil => simp
    | cons c more =>
      have other : c ≠ b := fun same => absent (same ▸ List.mem_cons_self)
      simp [other]
  | case2 a b rest _ ih =>
    cases needle with
    | nil => simp
    | cons c more =>
      rw [List.cons_prefix_cons, List.cons_prefix_cons,
        ih fun member => absent (List.mem_cons_of_mem c member)]
  | case3 => rfl

theorem infix_splitPairs_iff (absent : brace ∉ needle) (solid : ' ' ∉ needle) :
    needle <:+: splitPairs brace text ↔ needle <:+: text := by
  obtain _ | ⟨c, more⟩ := needle
  · simp
  have other : c ≠ brace := fun same => absent (same ▸ List.mem_cons_self)
  have letter : c ≠ ' ' := fun same => solid (same ▸ List.mem_cons_self)
  fun_induction splitPairs brace text with
  | case1 a b rest same ih =>
    obtain ⟨rfl, rfl⟩ := same
    simp [List.infix_cons_iff, other, letter, ih]
  | case2 a b rest _ ih =>
    have begins : c :: more <+: a :: splitPairs brace (b :: rest) ↔ c :: more <+: a :: b :: rest := by
      rw [List.cons_prefix_cons, List.cons_prefix_cons,
        prefix_splitPairs_iff fun member => absent (List.mem_cons_of_mem c member)]
    exact (List.infix_cons_iff.trans (or_congr begins ih)).trans List.infix_cons_iff.symm
  | case3 => rfl

theorem length_le_one_of_single
    (single : ∀ (a b : Char) (rest : List Char), text = a :: b :: rest → False) :
    text.length ≤ 1 := by
  rcases text with _ | ⟨a, _ | ⟨b, rest⟩⟩
  · exact Nat.zero_le 1
  · exact Nat.le_refl 1
  · exact (single a b rest rfl).elim

theorem infix_cons_iff_of_elsewhere {c : Char} (behind : ¬ needle <+: c :: text) :
    needle <:+: c :: text ↔ needle <:+: text := by
  rw [List.infix_cons_iff, or_iff_right behind]

theorem not_prefix_of_apart {a b : Char} {rest : List Char} (apart : ¬ (a = brace ∧ b = brace)) :
    ¬ brace :: brace :: needle <+: a :: b :: rest := by
  rw [List.cons_prefix_cons, List.cons_prefix_cons]
  rintro ⟨first, second, -⟩
  exact apart ⟨first.symm, second.symm⟩

theorem singleton_prefix_iff {c : Char} : [c] <+: text ↔ text.head? = some c := by
  cases text with
  | nil => simp
  | cons d rest => simp [eq_comm]

/-- Two braces are left side by side just where there were three. -/
theorem pair_splitPairs_iff (solid : brace ≠ ' ') :
    [brace, brace] <:+: splitPairs brace text ↔ [brace, brace, brace] <:+: text := by
  fun_induction splitPairs brace text with
  | case1 a b rest same ih =>
    obtain ⟨rfl, rfl⟩ := same
    have third : [b] <+: splitPairs b rest ↔ [b] <+: rest := by
      rw [singleton_prefix_iff, singleton_prefix_iff, head?_splitPairs]
    have later : [b, b] <+: rest → [b] <+: rest := (List.prefix_append [b] [b]).trans
    simp only [List.infix_cons_iff, List.cons_prefix_cons, solid, false_and, and_false,
      true_and, false_or, third, ih]
    tauto
  | case2 a b rest apart ih =>
    have unpaired : ¬ ([brace, brace] <+: a :: splitPairs brace (b :: rest)) := by
      rw [List.cons_prefix_cons, singleton_prefix_iff, head?_splitPairs]
      rintro ⟨first, second⟩
      exact apart ⟨first.symm, Option.some.inj second⟩
    rw [infix_cons_iff_of_elsewhere unpaired,
      infix_cons_iff_of_elsewhere (not_prefix_of_apart apart)]
    exact ih
  | case3 text single =>
    have short : text.length ≤ 1 := length_le_one_of_single single
    exact iff_of_false (fun inside => by simpa using inside.length_le.trans short)
      fun inside => by simpa using inside.length_le.trans short

theorem not_triple_splitPairs (solid : brace ≠ ' ') :
    ¬ [brace, brace, brace] <:+: splitPairs brace text := by
  fun_induction splitPairs brace text with
  | case1 a b rest same ih =>
    obtain ⟨rfl, rfl⟩ := same
    have unpaired := splitPairs_unpaired solid rest
    simp only [List.infix_cons_iff, List.cons_prefix_cons, solid, unpaired, ih, false_and,
      and_false, or_false, not_false_eq_true]
  | case2 a b rest _ ih =>
    rw [List.infix_cons_iff, List.cons_prefix_cons, not_or]
    exact ⟨fun begins => splitPairs_unpaired solid _ begins.2, ih⟩
  | case3 text single =>
    exact fun inside => by simpa using inside.length_le.trans (length_le_one_of_single single)

theorem splitPairs_eq_self_iff (solid : brace ≠ ' ') :
    splitPairs brace text = text ↔ ¬ [brace, brace] <:+: text := by
  fun_induction splitPairs brace text with
  | case1 a b rest same ih =>
    obtain ⟨rfl, rfl⟩ := same
    simp [Ne.symm solid, List.infix_cons_iff]
  | case2 a b rest apart ih =>
    rw [List.cons.injEq, infix_cons_iff_of_elsewhere (not_prefix_of_apart apart), ih]
    exact and_iff_right rfl
  | case3 text single =>
    have short : text.length ≤ 1 := length_le_one_of_single single
    exact iff_of_true rfl fun inside => by simpa using inside.length_le.trans short

/-! ### Both kinds of braces -/

theorem pair_breakBraces_iff (isBrace : brace ∈ ['{', '}']) :
    [brace, brace] <:+: breakBraces text ↔ [brace, brace, brace] <:+: text := by
  obtain rfl | rfl : brace = '{' ∨ brace = '}' := by simpa using isBrace
  · rw [breakBraces, infix_splitPairs_iff (by decide) (by decide), pair_splitPairs_iff (by decide)]
  · rw [breakBraces, pair_splitPairs_iff (by decide), infix_splitPairs_iff (by decide) (by decide)]

theorem not_triple_breakBraces (isBrace : brace ∈ ['{', '}']) :
    ¬ [brace, brace, brace] <:+: breakBraces text := by
  obtain rfl | rfl : brace = '{' ∨ brace = '}' := by simpa using isBrace
  · rw [breakBraces, infix_splitPairs_iff (by decide) (by decide)]
    exact not_triple_splitPairs (by decide)
  · exact not_triple_splitPairs (by decide)

theorem breakBraces_eq_self_iff :
    breakBraces text = text ↔ ∀ brace ∈ ['{', '}'], ¬ [brace, brace] <:+: text := by
  have left : Loosened text (splitPairs '{' text) := splitPairs_loosened (by decide) text
  have right : Loosened (splitPairs '{' text) (splitPairs '}' (splitPairs '{' text)) :=
    splitPairs_loosened (by decide) _
  have unpaired : (∀ brace ∈ ['{', '}'], ¬ [brace, brace] <:+: text) ↔
      splitPairs '{' text = text ∧ splitPairs '}' text = text := by
    rw [splitPairs_eq_self_iff (by decide), splitPairs_eq_self_iff (by decide)]
    simp
  rw [unpaired, breakBraces]
  constructor
  · intro same
    rw [same] at right
    have still : splitPairs '{' text = text := (left.antisymm right).symm
    rw [still] at same
    exact ⟨still, same⟩
  · rintro ⟨first, second⟩
    rw [first, second]

/-- Breaking braces up puts spaces between adjacent equal braces and changes nothing else. Two of them
are left side by side just where three were in a row, so that once more changes the text only if
there were three; after that none are left. -/
theorem braces_left_iff_three_in_a_row (text : List Char) :
    Loosened text (breakBraces text) ∧
    (∀ brace ∈ ['{', '}'],
      [brace, brace] <:+: breakBraces text ↔ [brace, brace, brace] <:+: text) ∧
    (breakBraces (breakBraces text) = breakBraces text ↔
      ∀ brace ∈ ['{', '}'], ¬ [brace, brace, brace] <:+: text) ∧
    ∀ brace ∈ ['{', '}'], ¬ [brace, brace] <:+: breakBraces (breakBraces text) := by
  refine ⟨breakBraces_loosened text, fun brace isBrace => pair_breakBraces_iff isBrace, ?_,
    fun brace isBrace => ?_⟩
  · rw [breakBraces_eq_self_iff]
    exact forall₂_congr fun brace isBrace => not_congr (pair_breakBraces_iff isBrace)
  · rw [pair_breakBraces_iff isBrace]
    exact not_triple_breakBraces isBrace

/-- Of three braces the last two are left together, and once more takes them apart. -/
theorem three_braces_stay_paired :
    breakBraces "\x7b\x7b\x7b".toList = "\x7b \x7b\x7b".toList ∧
    ['{', '{'] <:+: breakBraces "\x7b\x7b\x7b".toList ∧
    breakBraces (breakBraces "\x7b\x7b\x7b".toList) ≠ breakBraces "\x7b\x7b\x7b".toList := by
  decide

end Parley.Reply
