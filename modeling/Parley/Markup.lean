import Parley.Text.Lowercase
import Parley.Text.Ranges
import Parley.Text.Word

/-!
Markup in a text that a person typed. Scripts and style sheets go with all that stands between
their tags, every other tag goes alone.
-/

namespace Parley.Markup

open Parley.Text

def hiddenElements : List (List Char) := ["script".toList, "style".toList]

/-- Letters that count as the same in the name of an opening tag: the long s is an s, and the i with
a dot above and the i without are each an i. -/
def sameLetter (letter c : Char) : Bool :=
  lowerLetter c = letter || (letter = 's' && c.toNat = 0x17f) || (letter = 'i' && c.toNat = 0x131)
    || (letter = 'i' && c.toNat = 0x130)

def spelled? : List Char → List Char → Option (List Char × List Char)
  | [], text => some ([], text)
  | _ :: _, [] => none
  | letter :: name, c :: text =>
    if sameLetter letter c then
      (spelled? name text).map fun (taken, rest) => (c :: taken, rest)
    else none

/-- Lower case for the comparison of a closing tag with its opening one. -/
def foldLetter (c : Char) : Char := if c.toNat = 0x130 then 'i' else lowerLetter c

/-- Drops `name` from the start of a text, whatever the case of its letters. -/
def dropName? : List Char → List Char → Option (List Char)
  | [], text => some text
  | _ :: _, [] => none
  | letter :: name, c :: text =>
    if foldLetter letter = foldLetter c then dropName? name text else none

def continuesWord : List Char → Bool
  | [] => false
  | c :: _ => isWord c

def afterBracket? : List Char → Option (List Char)
  | [] => none
  | c :: rest => if c = '>' then some rest else afterBracket? rest

def afterClosing? (name : List Char) (text : List Char) : Option (List Char) :=
  match text with
  | '<' :: '/' :: rest =>
    match dropName? name rest with
    | some after =>
      match after.dropWhile isBlank with
      | '>' :: last => some last
      | _ => none
    | none => none
  | _ => none

def afterElement? (name : List Char) : List Char → Option (List Char)
  | [] => none
  | c :: rest =>
    match afterClosing? name (c :: rest) with
    | some after => some after
    | none => afterElement? name rest

/-- What follows the opening tag of a hidden element that a text starts with, after its name. -/
def opening? (text : List Char) : Option (List Char × List Char) :=
  match text with
  | '<' :: rest =>
    hiddenElements.findSome? fun element =>
      match spelled? element rest with
      | some (name, after) =>
        if continuesWord after then none
        else (afterBracket? after).map fun content => (name, content)
      | none => none
  | _ => none

def element? (text : List Char) : Option (List Char) :=
  match opening? text with
  | some (name, content) => afterElement? name content
  | none => none

theorem spelled?_length {name text taken rest : List Char}
    (found : spelled? name text = some (taken, rest)) : rest.length ≤ text.length := by
  induction name generalizing text taken with
  | nil => simp [spelled?] at found; simp [found.2]
  | cons letter name ih =>
    cases text with
    | nil => simp [spelled?] at found
    | cons c text =>
      simp only [spelled?] at found
      split at found
      · simp only [Option.map_eq_some_iff, Prod.mk.injEq, Prod.exists] at found
        obtain ⟨taken', rest', inner, _, rfl⟩ := found
        have := ih inner
        simp only [List.length_cons]; omega
      · cases found

theorem dropName?_length {name text rest : List Char}
    (found : dropName? name text = some rest) : rest.length ≤ text.length := by
  induction name generalizing text with
  | nil => simp [dropName?] at found; simp [found]
  | cons letter name ih =>
    cases text with
    | nil => simp [dropName?] at found
    | cons c text =>
      simp only [dropName?] at found
      split at found
      · have := ih found
        simp only [List.length_cons]; omega
      · cases found

theorem afterBracket?_length {text rest : List Char}
    (found : afterBracket? text = some rest) : rest.length < text.length := by
  induction text with
  | nil => simp [afterBracket?] at found
  | cons c text ih =>
    simp only [afterBracket?] at found
    split at found
    · cases found; simp
    · have := ih found
      simp only [List.length_cons]; omega

theorem afterClosing?_length {name text rest : List Char}
    (found : afterClosing? name text = some rest) : rest.length < text.length := by
  unfold afterClosing? at found
  split at found
  · rename_i inner
    split at found
    · rename_i after dropped
      have first := dropName?_length dropped
      have second : (after.dropWhile isBlank).length ≤ after.length :=
        (List.dropWhile_sublist _).length_le
      split at found
      · rename_i last closing
        cases found
        rw [closing] at second
        simp only [List.length_cons] at second ⊢
        omega
      · cases found
    · cases found
  · cases found

theorem afterElement?_length {name text rest : List Char}
    (found : afterElement? name text = some rest) : rest.length < text.length := by
  induction text with
  | nil => simp [afterElement?] at found
  | cons c text ih =>
    simp only [afterElement?] at found
    split at found
    · rename_i after closing
      cases found
      exact afterClosing?_length closing
    · have := ih found
      simp only [List.length_cons]; omega

theorem opening?_length {text name content : List Char}
    (found : opening? text = some (name, content)) : content.length < text.length := by
  unfold opening? at found
  split at found
  · rename_i rest
    obtain ⟨element, _, inner⟩ := List.exists_of_findSome?_eq_some found
    split at inner
    · rename_i taken after spelled
      have first := spelled?_length spelled
      split at inner
      · cases inner
      · simp only [Option.map_eq_some_iff, Prod.mk.injEq] at inner
        obtain ⟨content', bracket, _, rfl⟩ := inner
        have second := afterBracket?_length bracket
        simp only [List.length_cons]; omega
    · cases inner
  · cases found

theorem element?_length {text rest : List Char} (found : element? text = some rest) :
    rest.length < text.length := by
  unfold element? at found
  split at found
  · rename_i name content opened
    have first := opening?_length opened
    have second := afterElement?_length found
    omega
  · cases found

/-- A text without its hidden elements, found one after the other from the left. -/
def dropElements (text : List Char) : List Char :=
  match h : element? text with
  | some rest =>
    have := element?_length h
    dropElements rest
  | none =>
    match text with
    | [] => []
    | c :: rest => c :: dropElements rest
termination_by text.length

def tag? (text : List Char) : Option (List Char) :=
  match text with
  | '<' :: rest => afterBracket? rest
  | _ => none

theorem tag?_length {text rest : List Char} (found : tag? text = some rest) :
    rest.length < text.length := by
  unfold tag? at found
  split at found
  · have := afterBracket?_length found
    simp only [List.length_cons]; omega
  · cases found

def dropTags (text : List Char) : List Char :=
  match h : tag? text with
  | some rest =>
    have := tag?_length h
    dropTags rest
  | none =>
    match text with
    | [] => []
    | c :: rest => c :: dropTags rest
termination_by text.length

def strip (text : List Char) : List Char := dropTags (dropElements text)

end Parley.Markup
