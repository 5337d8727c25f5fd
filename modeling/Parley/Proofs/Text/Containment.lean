import Parley.Condition
import Parley.Context
import Parley.Proofs.Text.Normalizing
import Parley.Trigger

/-!
Texts that contain another one, before and after both are put into lower case. A trigger that occurs
in a message matches it, and a condition that a variable contains a text holds if it does, as long as
no capital sigma takes another form between the letters around it.
-/

namespace Parley

open Text

/-! ### A piece in the lower case of a text -/

namespace Text

theorem meetsCased_trimStart (text front : List Char) :
    meetsCased (text ++ (trimStart front).reverse) = meetsCased (text ++ front.reverse) := by
  obtain ⟨blanks, whole, blank⟩ := trimStart_split front
  have back : front.reverse = (trimStart front).reverse ++ blanks.reverse := by
    rw [← List.reverse_append, ← whole]
  rw [back, ← List.append_assoc]
  exact (meetsCased_blanks (fun c member => blank c (List.mem_reverse.mp member)) _).symm

theorem meetsCased_trimEnd (text back : List Char) :
    meetsCased (text ++ trimEnd back) = meetsCased (text ++ back) := by
  obtain ⟨blanks, whole, blank⟩ := trimEnd_split back
  rw [whole, ← List.append_assoc, meetsCased_blanks blank, ← whole]

theorem SigmasStay.trim {front piece back blanks blanks' : List Char}
    (stay : SigmasStay front.reverse back (blanks ++ piece ++ blanks'))
    (blank : ∀ c ∈ blanks, isBlank c = true) (blank' : ∀ c ∈ blanks', isBlank c = true) :
    SigmasStay (trimStart (front ++ blanks)).reverse (trimEnd (blanks' ++ back)) piece := by
  rintro before after rfl
  have forms := stay (blanks ++ before) (after ++ blanks') (by simp)
  have reversed : ∀ c ∈ blanks.reverse, isBlank c = true :=
    fun c member => blank c (List.mem_reverse.mp member)
  have left : meetsCased (before.reverse ++ (trimStart (front ++ blanks)).reverse) =
      meetsCased ((blanks ++ before).reverse ++ front.reverse) := by
    rw [meetsCased_trimStart, List.reverse_append, List.reverse_append, List.append_assoc]
  have right : meetsCased (after ++ trimEnd (blanks' ++ back)) =
      meetsCased (after ++ blanks' ++ back) := by
    rw [meetsCased_trimEnd, List.append_assoc]
  have alone : meetsCased (blanks ++ before).reverse = meetsCased before.reverse := by
    rw [List.reverse_append, meetsCased_blanks reversed]
  rw [lowerSigma, left, right, ← lowerSigma, forms, lowerSigma, alone, meetsCased_blanks blank',
    ← lowerSigma]

theorem SigmasStay.infix_lower {front piece back : List Char}
    (stay : SigmasStay front.reverse back piece) :
    lower piece <:+: lower (front ++ piece ++ back) := by
  rw [lower_append_append, lowerWithin_eq_lower_iff.mpr stay]
  exact ⟨_, _, rfl⟩

theorem lower_prefix_iff {piece back : List Char} :
    lower piece <+: lower (piece ++ back) ↔ SigmasStay [] back piece := by
  have whole : lower (piece ++ back) = lowerWithin [] back piece ++ lowerAfter piece.reverse back := by
    rw [lower, lowerAfter_append, List.append_nil]
  have long : (lower piece).length = (lowerWithin [] back piece).length := by
    rw [lower_eq_within, lowerWithin_length]
  rw [whole, ← lowerWithin_eq_lower_iff]
  constructor
  · rintro ⟨rest, same⟩
    exact (List.append_inj same long).1.symm
  · intro same
    rw [same]
    exact List.prefix_append _ _

theorem lower_suffix_iff {front piece : List Char} :
    lower piece <:+ lower (front ++ piece) ↔ SigmasStay front.reverse [] piece := by
  have whole : lower (front ++ piece) = lowerWithin [] piece front ++ lowerWithin front.reverse [] piece := by
    have three := lower_append_append front piece []
    rwa [List.append_nil, List.append_nil, lowerAfter, List.append_nil] at three
  have long : (lower piece).length = (lowerWithin front.reverse [] piece).length := by
    rw [lower_eq_within, lowerWithin_length]
  rw [whole, ← lowerWithin_eq_lower_iff]
  constructor
  · rintro ⟨rest, same⟩
    exact (List.append_inj' same long).2.symm
  · intro same
    rw [same]
    exact List.suffix_append _ _

end Text

/-! ### Triggers -/

namespace Trigger

/-- A text in which there is anything but white space. -/
def Speaks (text : String) : Prop := ∃ c ∈ text.toList, isBlank c = false

theorem normalize_ne_nil_iff {text : String} : normalize text ≠ [] ↔ Speaks text := by
  rw [Speaks, ← trim_ne_nil_iff, normalize]
  constructor
  · intro some none
    rw [none] at some
    exact some rfl
  · exact lower_ne_nil

theorem matchesTrigger_iff {message : List Char} {trigger : String} :
    matchesTrigger message trigger = true ↔ Speaks trigger ∧ normalize trigger <:+: message := by
  rw [← normalize_ne_nil_iff, matchesTrigger]
  simp only [Bool.and_eq_true, Bool.not_eq_true', List.isEmpty_eq_false_iff, Bool.or_eq_true,
    decide_eq_true_eq, occursIn_iff_isInfix]
  refine and_congr_right fun _ => or_iff_right_of_imp ?_
  rintro rfl
  exact List.infix_refl _

theorem normalize_infix {message trigger : String} {front back : List Char}
    (occurs : message.toList = front ++ trigger.toList ++ back) (speaks : Speaks trigger)
    (stay : SigmasStay front.reverse back trigger.toList) :
    normalize trigger <:+: normalize message := by
  obtain ⟨blanks, blanks', whole, blank, blank'⟩ := trim_split trigger.toList
  have solid : Trimmed (trim trigger.toList) := trim_trimmed trigger.toList
  have some : trim trigger.toList ≠ [] := trim_ne_nil_iff.mpr speaks
  rw [normalize, normalize]
  generalize trim trigger.toList = core at whole solid some
  rw [whole] at occurs stay
  have text : message.toList = (front ++ blanks) ++ core ++ (blanks' ++ back) := by
    rw [occurs]
    simp only [List.append_assoc]
  -- the white space around the trigger stays inside the message, next to the trigger's core
  rw [text, trim_around solid some]
  exact (stay.trim blank blank').infix_lower

theorem matchesTrigger_of_contained {message trigger : String} {front back : List Char}
    (occurs : message.toList = front ++ trigger.toList ++ back) (speaks : Speaks trigger)
    (stay : SigmasStay front.reverse back trigger.toList) :
    matchesTrigger (normalize message) trigger = true :=
  matchesTrigger_iff.mpr ⟨speaks, normalize_infix occurs speaks stay⟩

end Trigger

/-! ### Conditions -/

namespace Condition

variable {context : Context} {name actual value : String} {front back : List Char}

theorem holds_known {operator : String} {known : Operator} (named : name ≠ "")
    (is : context.get? name = some actual) (means : Operator.ofName? operator = some known) :
    holds { variableName := some name, operator := some operator, value := some value }
      context.get? = compare known actual value := by
  simp only [holds, means, is, Option.getD_some, named, ne_eq, not_false_eq_true, decide_true,
    Bool.true_and]

theorem contains_of_contained (named : name ≠ "") (is : context.get? name = some actual)
    (occurs : actual.toList = front ++ value.toList ++ back)
    (stay : SigmasStay front.reverse back value.toList) :
    holds { variableName := some name, operator := some "contains", value := some value }
      context.get? = true := by
  rw [holds_known named is rfl, compare, Operator.holds, occursIn_iff_isInfix, occurs]
  exact stay.infix_lower

theorem startsWith_iff (named : name ≠ "") (is : context.get? name = some actual)
    (begins : actual.toList = value.toList ++ back) :
    holds { variableName := some name, operator := some "startsWith", value := some value }
      context.get? = true ↔ SigmasStay [] back value.toList := by
  rw [holds_known named is rfl, compare, Operator.holds, List.isPrefixOf_iff_prefix, begins]
  exact lower_prefix_iff

theorem endsWith_iff (named : name ≠ "") (is : context.get? name = some actual)
    (ends : actual.toList = front ++ value.toList) :
    holds { variableName := some name, operator := some "endsWith", value := some value }
      context.get? = true ↔ SigmasStay front.reverse [] value.toList := by
  rw [holds_known named is rfl, compare, Operator.holds, List.isSuffixOf_iff_suffix, ends]
  exact lower_suffix_iff

end Condition

/-! ### A text in another -/

/-- A trigger with more than white space that stands in a message matches it, and a condition that the
value of a variable contains a text which stands in it holds, if there each capital sigma takes the
form that it takes in the trigger or in the text alone. For a text at the start or at the end of the
value, the condition that it starts or ends so holds exactly then. -/
theorem contained_texts_match (front back : List Char) :
    (∀ message trigger : String, message.toList = front ++ trigger.toList ++ back →
      Trigger.Speaks trigger → SigmasStay front.reverse back trigger.toList →
      Trigger.matchesTrigger (Trigger.normalize message) trigger = true) ∧
    ∀ (context : Context) (name actual value : String), name ≠ "" →
      context.get? name = some actual →
      let condition (operator : String) : Condition :=
        { variableName := some name, operator := some operator, value := some value }
      (actual.toList = front ++ value.toList ++ back →
        SigmasStay front.reverse back value.toList →
        (condition "contains").holds context.get? = true) ∧
      (actual.toList = value.toList ++ back →
        ((condition "startsWith").holds context.get? = true ↔ SigmasStay [] back value.toList)) ∧
      (actual.toList = front ++ value.toList →
        ((condition "endsWith").holds context.get? = true ↔
          SigmasStay front.reverse [] value.toList)) := by
  refine ⟨fun message trigger occurs speaks stay => ?_, fun context name actual value named is => ?_⟩
  · exact Trigger.matchesTrigger_of_contained occurs speaks stay
  · refine ⟨fun occurs stay => ?_, fun begins => ?_, fun ends => ?_⟩
    · exact Condition.contains_of_contained named is occurs stay
    · exact Condition.startsWith_iff named is begins
    · exact Condition.endsWith_iff named is ends

/-- The word for a road is found in a sentence, where its sigma ends a word as it does in the word
alone. -/
theorem road_is_found :
    Trigger.matchesTrigger (Trigger.normalize "Η ΟΔΟΣ ΜΟΥ") " ΟΔΟΣ" = true ∧
    (let context : Context := [("way", "Η ΟΔΟΣ ΜΟΥ")]
    let condition (operator value : String) : Condition :=
      { variableName := some "way", operator := some operator, value := some value }
    (condition "contains" "ΟΔΟΣ").holds context.get? = true ∧
    (condition "startsWith" "Η ΟΔΟΣ").holds context.get? = true ∧
    (condition "endsWith" "ΟΔΟΣ ΜΟΥ").holds context.get? = true) := by
  refine ⟨?_, ?_, ?_, ?_⟩
  · exact (contained_texts_match ['Η'] " ΜΟΥ".toList).1 _ _ (by decide) ⟨'Σ', by decide, by decide⟩
      (by decide +kernel)
  · exact ((contained_texts_match "Η ".toList " ΜΟΥ".toList).2 _ _ _ "ΟΔΟΣ" (by decide) rfl).1
      (by decide) (by decide +kernel)
  · exact (((contained_texts_match [] " ΜΟΥ".toList).2 _ _ _ "Η ΟΔΟΣ" (by decide) rfl).2.1
      (by decide)).mpr (by decide +kernel)
  · exact (((contained_texts_match "Η ".toList []).2 _ _ _ "ΟΔΟΣ ΜΟΥ" (by decide) rfl).2.2
      (by decide)).mpr (by decide +kernel)

/-- A sigma that ends a word has another form before a letter, and one that stands alone has another
form behind a letter. So a word is missed in a longer one that is written with all of its letters. -/
theorem longer_word_is_missed :
    "ΟΣΑ".toList = [] ++ "ΟΣ".toList ++ ['Α'] ∧ "ΟΣ".toList = ['Ο'] ++ "Σ".toList ∧
    Trigger.Speaks "ΟΣ" ∧
    Trigger.matchesTrigger (Trigger.normalize "ΟΣΑ") "ΟΣ" = false ∧
    (let context : Context := [("long", "ΟΣΑ"), ("short", "ΟΣ")]
    let condition (name operator value : String) : Condition :=
      { variableName := some name, operator := some operator, value := some value }
    (condition "long" "contains" "ΟΣ").holds context.get? = false ∧
    (condition "long" "startsWith" "ΟΣ").holds context.get? = false ∧
    (condition "short" "endsWith" "Σ").holds context.get? = false) :=
  ⟨by decide, by decide, ⟨'Σ', by decide, by decide⟩, by decide +kernel, by decide +kernel,
    by decide +kernel, by decide +kernel⟩

end Parley
