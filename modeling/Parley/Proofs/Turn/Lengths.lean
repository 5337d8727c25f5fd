import Parley.Proofs.Text.Elements
import Parley.Proofs.Text.Normalizing
import Parley.Proofs.Turn.Answers

/-!
How long cleaned replies are. A reply is cut before its double braces are broken up, and each pair
that is broken takes a space more; so the limit holds of what is seen of a reply, and up to half as
much can come on top.
-/

namespace Parley

open Text

namespace Reply

/-! ### Pairs of braces -/

/-- How many pairs of a brace are in a text; `odd` says that a brace stands before it which is in no
pair. -/
def pairsFrom (brace : Char) : Bool → List Char → Nat
  | _, [] => 0
  | odd, c :: rest =>
    if c ≠ brace then pairsFrom brace false rest
    else if odd then pairsFrom brace false rest + 1
    else pairsFrom brace true rest

/-- How many pairs of a brace are in a text, counted from the left in each run. -/
def pairs (brace : Char) (text : List Char) : Nat := pairsFrom brace false text

@[simp] theorem pairsFrom_nil (brace : Char) (odd : Bool) : pairsFrom brace odd [] = 0 := rfl

@[simp] theorem pairsFrom_other {brace c : Char} (other : c ≠ brace) (odd : Bool) (rest : List Char) :
    pairsFrom brace odd (c :: rest) = pairsFrom brace false rest := by
  simp [pairsFrom, other]

@[simp] theorem pairsFrom_odd (brace : Char) (rest : List Char) :
    pairsFrom brace true (brace :: rest) = pairsFrom brace false rest + 1 := by
  simp [pairsFrom]

@[simp] theorem pairsFrom_even (brace : Char) (rest : List Char) :
    pairsFrom brace false (brace :: rest) = pairsFrom brace true rest := by
  simp [pairsFrom]

theorem pairs_replicate (brace : Char) (count : Nat) :
    pairs brace (List.replicate count brace) = count / 2 := by
  have run (odd : Bool) :
      pairsFrom brace odd (List.replicate count brace) = (count + odd.toNat) / 2 := by
    induction count generalizing odd with
    | zero => cases odd <;> rfl
    | succ count ih =>
      rw [List.replicate_succ]
      cases odd
      · simp [ih]
      · simp only [pairsFrom_odd, ih, Bool.toNat_false, Bool.toNat_true]
        omega
  rw [pairs, run false]
  rfl

theorem pairs_of_not_mem {brace : Char} {text : List Char} (none : brace ∉ text) :
    pairs brace text = 0 := by
  rw [pairs]
  induction text with
  | nil => rfl
  | cons c rest ih =>
    rw [List.mem_cons, not_or] at none
    rw [pairsFrom_other (Ne.symm none.1), ih none.2]

/-- A brace without its pair yet counts for the pair that it may become. -/
theorem two_pairsFrom_le_length (opened closed : Bool) (text : List Char) :
    2 * (pairsFrom '{' opened text + pairsFrom '}' closed text) ≤
      text.length + opened.toNat + closed.toNat := by
  induction text generalizing opened closed with
  | nil => simp
  | cons c rest ih =>
    by_cases opening : c = '{'
    · subst opening
      have later := ih (!opened) false
      cases opened <;> simp at later ⊢ <;> omega
    · by_cases closing : c = '}'
      · subst closing
        have later := ih false (!closed)
        cases closed <;> simp at later ⊢ <;> omega
      · have later := ih false false
        simp [opening, closing] at later ⊢
        omega

theorem two_pairs_le_length (text : List Char) :
    2 * (pairs '{' text + pairs '}' text) ≤ text.length := by
  simpa [pairs] using two_pairsFrom_le_length false false text

/-! ### Breaking braces -/

theorem length_splitPairs (brace : Char) (text : List Char) :
    (splitPairs brace text).length = text.length + pairs brace text := by
  rw [pairs]
  fun_induction splitPairs brace text with
  | case1 a b rest same ih =>
    obtain ⟨rfl, rfl⟩ := same
    simp [ih]
    omega
  | case2 a b rest apart ih =>
    by_cases first : a = brace
    · subst first
      have second : b ≠ a := fun same => apart ⟨rfl, same⟩
      simp [ih, second]
      omega
    · simp [ih, first]
      omega
  | case3 text single =>
    rcases text with _ | ⟨a, _ | ⟨b, rest⟩⟩
    · rfl
    · by_cases first : a = brace <;> simp [pairsFrom, first]
    · exact (single a b rest rfl).elim

theorem pairsFrom_splitPairs {brace other : Char} (differ : brace ≠ other) (solid : other ≠ ' ')
    (odd : Bool) (text : List Char) :
    pairsFrom other odd (splitPairs brace text) = pairsFrom other odd text := by
  fun_induction splitPairs brace text generalizing odd with
  | case1 a b rest same ih =>
    obtain ⟨rfl, rfl⟩ := same
    simp [differ, Ne.symm solid, ih]
  | case2 a b rest apart ih => rw [pairsFrom, pairsFrom, ih, ih]
  | case3 => rfl

theorem length_breakBraces (text : List Char) :
    (breakBraces text).length = text.length + pairs '{' text + pairs '}' text := by
  have kept : pairs '}' (splitPairs '{' text) = pairs '}' text :=
    pairsFrom_splitPairs (by decide) (by decide) false text
  rw [breakBraces, length_splitPairs, length_splitPairs, kept]

theorem splitPairs_append_of_not_mem {brace : Char} {front : List Char} (solid : brace ∉ front)
    (rest : List Char) : splitPairs brace (front ++ rest) = front ++ splitPairs brace rest := by
  induction front with
  | nil => rfl
  | cons a front ih =>
    have later := ih fun member => solid (List.mem_cons_of_mem a member)
    have first : a ≠ brace := fun same => solid (same ▸ List.mem_cons_self)
    rw [List.cons_append, List.cons_append, ← later]
    cases front ++ rest with
    | nil => rfl
    | cons b more => rw [splitPairs, if_neg fun same => first same.1]

theorem splitPairs_append_of_not_mem_right {brace : Char} {back : List Char} (solid : brace ∉ back)
    (text : List Char) : splitPairs brace (text ++ back) = splitPairs brace text ++ back := by
  fun_induction splitPairs brace text with
  | case1 a b rest same ih => simp [splitPairs, same, ih]
  | case2 a b rest apart ih =>
    rw [List.cons_append, List.cons_append, splitPairs, if_neg apart, ← List.cons_append, ih]
    rfl
  | case3 text single =>
    have alone : splitPairs brace back = back := by
      simpa [splitPairs] using splitPairs_append_of_not_mem solid []
    rcases text with _ | ⟨a, _ | ⟨b, rest⟩⟩
    · exact alone
    · cases back with
      | nil => rfl
      | cons b more =>
        have second : b ≠ brace := fun same => solid (same ▸ List.mem_cons_self)
        rw [List.singleton_append, splitPairs, if_neg fun same => second same.2, alone]
    · exact (single a b rest rfl).elim

theorem breakBraces_around {front back : List Char} (solid : '{' ∉ front ∧ '}' ∉ front)
    (solid' : '{' ∉ back ∧ '}' ∉ back) (text : List Char) :
    breakBraces (front ++ text ++ back) = front ++ breakBraces text ++ back := by
  simp only [breakBraces, List.append_assoc, splitPairs_append_of_not_mem solid.1,
    splitPairs_append_of_not_mem solid.2, splitPairs_append_of_not_mem_right solid'.1,
    splitPairs_append_of_not_mem_right solid'.2]

theorem getLast?_splitPairs (brace : Char) (text : List Char) :
    (splitPairs brace text).getLast? = text.getLast? := by
  fun_induction splitPairs brace text with
  | case1 a b rest _ ih =>
    rw [List.getLast?_cons_cons, List.getLast?_cons_cons, List.getLast?_cons_cons,
      List.getLast?_cons, List.getLast?_cons, ih]
  | case2 a b rest _ ih =>
    rw [List.getLast?_cons, List.getLast?_cons, ih]
  | case3 => rfl

/-- White space around a text is none of its braces, so it can be trimmed before or after they are
broken up. -/
theorem trim_breakBraces (text : List Char) : trim (breakBraces text) = breakBraces (trim text) := by
  obtain ⟨front, back, whole, blank, blank'⟩ := trim_split text
  have solid {blanks : List Char} (blank : ∀ c ∈ blanks, isBlank c = true) :
      '{' ∉ blanks ∧ '}' ∉ blanks :=
    ⟨fun member => absurd (blank _ member) (by decide),
      fun member => absurd (blank _ member) (by decide)⟩
  have around : breakBraces text = front ++ breakBraces (trim text) ++ back := by
    conv => lhs; rw [whole]
    exact breakBraces_around (solid blank) (solid blank') (trim text)
  have trimmed : Trimmed (breakBraces (trim text)) := by
    have ends := trim_trimmed text
    constructor
    · rw [breakBraces, head?_splitPairs, head?_splitPairs]
      exact ends.first
    · rw [breakBraces, getLast?_splitPairs, getLast?_splitPairs]
      exact ends.last
  have bare : trimStart front = [] := List.dropWhile_eq_nil_iff.mpr blank
  have bare' : trimEnd back = [] := by
    rw [trimEnd, List.dropWhile_eq_nil_iff.mpr (by simpa using blank'), List.reverse_nil]
  -- only where nothing else is left does the white space of both sides come together
  by_cases some : breakBraces (trim text) = []
  · rw [around, some, List.append_nil, trim]
    have all : trimStart (front ++ back) = [] := List.dropWhile_eq_nil_iff.mpr fun c member =>
      (List.mem_append.mp member).elim (blank c) (blank' c)
    rw [all]
    rfl
  · rw [around, trim_around trimmed some, bare, bare', List.nil_append, List.append_nil]

/-! ### Cleaned replies -/

/-- What is seen of a reply: its text without control characters, cut to a limit, without markup and
white space around it. -/
def seen (limit : Int) (text : List Char) : List Char :=
  trim (Markup.strip (cut limit (text.filter isKept)))

theorem cleanChars_eq (limit : Int) (text : List Char) :
    cleanChars limit text = breakBraces (seen limit text) := trim_breakBraces _

theorem length_cut_le (limit : Nat) (text : List Char) : (cut limit text).length ≤ limit := by
  rw [cut]
  split
  · omega
  · rw [if_neg (by omega), List.length_take]
    omega

theorem length_seen_le (limit : Nat) (text : List Char) : (seen limit text).length ≤ limit := by
  have inside := trim_infix (Markup.strip (cut limit (text.filter isKept)))
  exact (inside.sublist.trans (Markup.strip_sublist _)).length_le.trans (length_cut_le limit _)

theorem length_cleanChars (limit : Int) (text : List Char) :
    (cleanChars limit text).length =
      (seen limit text).length + pairs '{' (seen limit text) + pairs '}' (seen limit text) := by
  rw [cleanChars_eq, length_breakBraces]

theorem two_length_cleanChars_le (limit : Nat) (text : List Char) :
    2 * (cleanChars limit text).length ≤ 3 * limit := by
  have own := length_seen_le limit text
  have more := two_pairs_le_length (seen limit text)
  rw [length_cleanChars]
  omega

theorem length_clean_le (reply : String) : (clean reply).length ≤ 3000 := by
  have capped := two_length_cleanChars_le 2000 reply.toList
  rw [clean, String.length_ofList]
  change 2 * (cleanChars 2000 _).length ≤ _ at capped
  change (cleanChars 2000 _).length ≤ _
  omega

theorem length_cleanChars_replicate (limit : Nat) :
    (cleanChars limit (List.replicate limit '{')).length = limit + limit / 2 := by
  have kept : (List.replicate limit '{').filter isKept = List.replicate limit '{' :=
    List.filter_replicate_of_pos (by decide)
  have short : cut limit (List.replicate limit '{') = List.replicate limit '{' := by
    rw [cut, List.length_replicate, if_pos le_rfl]
  have plain : Markup.strip (List.replicate limit '{') = List.replicate limit '{' :=
    Markup.strip_of_not_mem fun member => absurd (List.eq_of_mem_replicate member) (by decide)
  have dark : isBlank '{' = false := by decide
  have trimmed : trim (List.replicate limit '{') = List.replicate limit '{' := by
    simp [trim, trimStart, trimEnd, dark]
  have whole : seen limit (List.replicate limit '{') = List.replicate limit '{' := by
    rw [seen, kept, short, plain, trimmed]
  have unclosed : pairs '}' (List.replicate limit '{') = 0 :=
    pairs_of_not_mem fun member => absurd (List.eq_of_mem_replicate member) (by decide)
  rw [length_cleanChars, whole, pairs_replicate, unclosed, List.length_replicate, Nat.add_zero]

end Reply

namespace History

open Reply

/-- The limit holds of what is seen of a reply. What becomes of it is longer by its pairs of braces,
half as long again at most, and braces alone come to that. So what senders write is stored in up to
3000 characters. -/
theorem replies_outgrow_their_limit {σ : Type} (start : World σ)
    (empty : start.storage.store.sessionRows = []) (events : List (Event σ))
    (leave : ∀ event ∈ events, event.LeavesVariables) :
    (∀ (limit : Nat) (text : List Char), (seen limit text).length ≤ limit ∧
      (cleanChars limit text).length =
        (seen limit text).length + pairs '{' (seen limit text) + pairs '}' (seen limit text) ∧
      2 * (cleanChars limit text).length ≤ 3 * limit ∧
      (cleanChars limit (List.replicate limit '{')).length = limit + limit / 2) ∧
    ∀ row ∈ (run start events).storage.store.sessionRows,
      ∃ context : Context, row.context = Session.contextJson context ∧
        ∀ entry ∈ context, ∃ reply, entry.2 = clean reply ∧ entry.2.length ≤ 3000 := by
  refine ⟨fun limit text => ⟨length_seen_le limit text, length_cleanChars limit text,
    two_length_cleanChars_le limit text, length_cleanChars_replicate limit⟩, ?_⟩
  have idle : start.storage.store.Holds fun value => ∃ reply, value = clean reply := by
    intro row member
    rw [empty] at member
    exact nomatch member
  intro row member
  obtain ⟨context, stored, values⟩ :=
    run_retains (fun reply => ⟨reply, rfl⟩) start leave idle row member
  refine ⟨context, stored, fun entry inside => ?_⟩
  obtain ⟨reply, same⟩ := values entry inside
  exact ⟨reply, same, same ▸ length_clean_le reply⟩

def bracing : List (Event Unit) :=
  let write (text : String) : Event Unit :=
    .turn (fun _ _ _ medium => { medium }) {} { id := "bot" } { senderId := "eve", text }
  [.saveBlock survey, write "hi", write "\x7b\x7b\x7b\x7b"]

theorem four_braces_outgrow_their_limit :
    untouched.storage.store.sessionRows = [] ∧ (∀ event ∈ bracing, event.LeavesVariables) ∧
      (run untouched bracing).storage.store.sessionRows ≠ [] ∧
      (cleanChars (4 : Nat) (List.replicate 4 '{')).length = 4 + 4 / 2 ∧
      ∀ row ∈ (run untouched bracing).storage.store.sessionRows,
        ∃ context : Context, row.context = Session.contextJson context ∧
          ∀ entry ∈ context, ∃ reply, entry.2 = clean reply ∧ entry.2.length ≤ 3000 := by
  have empty : untouched.storage.store.sessionRows = [] := rfl
  have leave : ∀ event ∈ bracing, event.LeavesVariables := by
    simp [bracing, Event.LeavesVariables]
  have stored : (run untouched bracing).storage.store.sessionRows ≠ [] := by decide +kernel
  obtain ⟨lengths, values⟩ := replies_outgrow_their_limit untouched empty bracing leave
  exact ⟨empty, leave, stored, (lengths 4 []).2.2.2, values⟩

/-- Two braces take three characters where two are allowed, and two thousand take three thousand. -/
theorem two_braces_are_too_long :
    cleanChars 2 "\x7b\x7b".toList = "\x7b \x7b".toList ∧
      ¬ (cleanChars 2 "\x7b\x7b".toList).length ≤ 2 ∧
      (clean (String.ofList (List.replicate 2000 '{'))).length = 3000 := by
  have two : cleanChars 2 "\x7b\x7b".toList = "\x7b \x7b".toList := by decide +kernel
  have all := length_cleanChars_replicate 2000
  refine ⟨two, by rw [two]; decide, ?_⟩
  rw [clean, String.length_ofList, String.toList_ofList]
  exact all

end History

end Parley
