import Parley.Text.Word

/-!
Placeholders in text: a name of word characters between two marks. A placeholder is filled from the
values under its name, and stays as it is when there are none. The scan goes once from left to
right, so what was filled in is never read again.
-/

namespace Parley.Template

open Parley.Text

structure Marks where
  opening : List Char
  closing : List Char
  deriving DecidableEq, Repr

def braces : Marks := ⟨['{', '{'], ['}', '}']⟩

def dollar : Marks := ⟨['$', '{'], ['}']⟩

/-- The name of the placeholder that a text starts with, and what follows the placeholder. -/
def placeholder? (marks : Marks) (text : List Char) : Option (List Char × List Char) :=
  let inside := text.drop marks.opening.length
  let name := inside.takeWhile isWord
  let rest := inside.dropWhile isWord
  if marks.opening.isPrefixOf text && !name.isEmpty && marks.closing.isPrefixOf rest then
    some (name, rest.drop marks.closing.length)
  else none

theorem length_lt_of_placeholder? {marks : Marks} {text name after : List Char}
    (found : placeholder? marks text = some (name, after)) : after.length < text.length := by
  unfold placeholder? at found
  simp only [Bool.and_eq_true] at found
  split at found
  · rename_i holds
    simp only [Option.some.injEq, Prod.mk.injEq] at found
    obtain ⟨_, rfl⟩ := found
    have whole := congrArg List.length
      (List.takeWhile_append_dropWhile (p := isWord) (l := text.drop marks.opening.length))
    simp only [List.length_append, List.length_drop] at whole
    have named : 0 < ((text.drop marks.opening.length).takeWhile isWord).length := by
      have notEmpty := holds.1.2
      cases h : (text.drop marks.opening.length).takeWhile isWord with
      | nil => simp [h] at notEmpty
      | cons c rest => simp
    simp only [List.length_drop]
    omega
  · cases found

def asPlaceholder (marks : Marks) (name : List Char) : List Char :=
  marks.opening ++ name ++ marks.closing

def fillChars (marks : Marks) (value? : String → Option String) (text : List Char) : List Char :=
  match h : placeholder? marks text with
  | some (name, after) =>
    have := length_lt_of_placeholder? h
    ((value? (String.ofList name)).map String.toList).getD (asPlaceholder marks name) ++
      fillChars marks value? after
  | none =>
    match text with
    | [] => []
    | c :: rest => c :: fillChars marks value? rest
termination_by text.length

def fillMarks (marks : Marks) (value? : String → Option String) (text : String) : String :=
  String.ofList (fillChars marks value? text.toList)

def fill (value? : String → Option String) (text : String) : String := fillMarks braces value? text

end Parley.Template
