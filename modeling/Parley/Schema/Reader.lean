import Parley.Json.Parser
import Parley.Number.Numeral
import Parley.Schema.Checked
import Parley.Time.Timestamp

/-!
Readers of single fields. Numbers and truth values may be given as text, texts only as text.
-/

namespace Parley.Schema

open Parley.Number Parley.Text

abbrev Fields := List (String × Json)

/-- A field has a spelling in authored files and one in stored records; either is read. -/
structure Key where
  authored : String
  stored : String
  deriving DecidableEq, Repr

def key (name : String) : Key := ⟨name, name⟩

inductive Spelling where
  | authored
  | stored
  deriving DecidableEq, Repr

def Spelling.name (spelling : Spelling) (key : Key) : String :=
  match spelling with
  | .authored => key.authored
  | .stored => key.stored

/-- A field in the spelling in which it is given, and its value; the authored spelling counts
first. -/
def pick (key : Key) (fields : Fields) : Option (String × Json) :=
  match Json.lookup key.authored fields with
  | some value => some (key.authored, value)
  | none => (Json.lookup key.stored fields).map fun value => (key.stored, value)

variable {α : Type}

def required (key : Key) (read : Json → Checked α) (fields : Fields) : Checked α :=
  match pick key fields with
  | some (name, value) => (read value).under (.field name)
  | none => .invalid [⟨[.field key.authored], .missing⟩]

def withDefault (key : Key) (default : α) (read : Json → Checked α) (fields : Fields) : Checked α :=
  match pick key fields with
  | some (name, value) => (read value).under (.field name)
  | none => .valid default

def record (read : Fields → Checked α) (value : Json) : Checked α :=
  match value with
  | .obj fields => read fields
  | _ => .fail .notModel

def readText : Json → Checked String
  | .str text => .valid text
  | _ => .fail .notText

def readText? : Json → Checked (Option String)
  | .null => .valid none
  | .str text => .valid (some text)
  | _ => .fail .notText

def textField? (key : Key) : Fields → Checked (Option String) := withDefault key none readText?

def textField (key : Key) : Fields → Checked String := withDefault key "" readText

def trueWords : List String := ["1", "t", "y", "on", "yes", "true"]

def falseWords : List String := ["0", "f", "n", "no", "off", "false"]

def boolOfInt (n : Int) : Checked Bool :=
  if n = 0 then .valid false else if n = 1 then .valid true else .fail .unreadableBool

/-- Whole numbers given with a point are read below this size. -/
def wholeLimit : Int := Nat.pow 2 63

def wholeValue? (x : Float) : Option Int :=
  if isFinite x && (exact x).den = 1 then some (exact x).num else none

def smallValue? (x : Float) : Option Int :=
  (wholeValue? x).filter fun n => -wholeLimit < n && n < wholeLimit

def readBool : Json → Checked Bool
  | .bool value => .valid value
  | .int n => if -wholeLimit ≤ n && n < wholeLimit then boolOfInt n else .fail .notBool
  | .float x =>
    match smallValue? x with
    | some n => boolOfInt n
    | none => .fail .notBool
  | .str text =>
    let word := text.map Char.toLower
    if trueWords.contains word then .valid true
    else if falseWords.contains word then .valid false
    else .fail .unreadableBool
  | _ => .fail .notBool

def readInt : Json → Checked Int
  | .bool value => .valid (if value then 1 else 0)
  | .int n => .valid n
  | .float x =>
    match wholeValue? x, smallValue? x with
    | _, some n => .valid n
    | some _, none => .fail .longInt
    | none, none => .fail (if isFinite x then .fractionalInt else .infiniteInt)
  | .str text =>
    match authoredInt text with
    | .number n => .valid n
    | .tooLong _ => .fail .longInt
    | .unreadable => .fail .unreadableInt
  | _ => .fail .notInt

def floatOfInt (n : Int) : Float := ofDecimal (n < 0) n.natAbs 0

def readFloat : Json → Checked Float
  | .bool value => .valid (if value then 1 else 0)
  | .int n => if isFinite (floatOfInt n) then .valid (floatOfInt n) else .fail .notFloat
  | .float x => .valid x
  | .str text =>
    match authoredFloat? text with
    | some x => .valid x
    | none => .fail .unreadableFloat
  | _ => .fail .notFloat

def timestampOfNumber? : Json → Option Timestamp
  | .int n => if -wholeLimit ≤ n && n < wholeLimit then Timestamp.ofCount? n 0 else none
  | .float x => Timestamp.ofNumber? x
  | _ => none

def isClockNumber : Json → Bool
  | .int n => isFinite (floatOfInt n)
  | .float _ => true
  | _ => false

def readTimestamp (value : Json) : Checked Timestamp :=
  let read (time? : Option Timestamp) (problem : Problem) : Checked Timestamp :=
    match time? with
    | some time => if time.hasYear then .valid time else .fail .timeOutOfRange
    | none => .fail problem
  match value with
  | .str text => read (Timestamp.parse? text) .unreadableTime
  | value =>
    read (timestampOfNumber? value) (if isClockNumber value then .timeOutOfRange else .notTime)

/-- A date, or a point in time that is a midnight. -/
def readDay (value : Json) : Checked Day :=
  let ofDay (day : Day) : Checked Day :=
    if (Timestamp.atMidnight day).hasYear then .valid day else .fail .dateOutOfRange
  let ofTimestamp (time? : Option Timestamp) (problem : Problem) : Checked Day :=
    match time? with
    | some time => if time.isMidnight then ofDay time.day else .fail .inexactDate
    | none => .fail problem
  match value with
  | .str text =>
    match Timestamp.parseDay? text with
    | some day => ofDay day
    | none => ofTimestamp (Timestamp.parse? text) .unreadableDate
  | value =>
    ofTimestamp (timestampOfNumber? value)
      (if isClockNumber value then .unreadableDate else .notDate)

def readLiteral (member? : String → Option α) : Json → Checked α
  | .str text =>
    match member? text with
    | some value => .valid value
    | none => .fail .unknownLiteral
  | _ => .fail .unknownLiteral

def readTag (tag : String) : Json → Checked Unit :=
  readLiteral fun text => if text = tag then some () else none

def readItems (read : Json → Checked α) : Nat → List Json → Checked (List α)
  | _, [] => .valid []
  | position, item :: rest =>
    List.cons <$> (read item).under (.index position) <*> readItems read (position + 1) rest

def readList (read : Json → Checked α) : Json → Checked (List α)
  | .arr items => readItems read 0 items
  | _ => .fail .notList

/-- A list, or its JSON text; null and blank text stand for the empty list. -/
def readAuthoredList (read : Json → Checked α) : Json → Checked (List α)
  | .null => .valid []
  | .str text =>
    if (trim text.toList).isEmpty then .valid []
    else
      match Json.parse? text with
      | some value => readList read value
      | none => .fail .unreadableList
  | value => readList read value

def readEntries : Fields → Checked (List (String × String))
  | [] => .valid []
  | (name, value) :: rest =>
    (fun text entries => (name, text) :: entries) <$> (readText value).under (.field name) <*>
      readEntries rest

def readDictionary : Json → Checked (List (String × String))
  | .obj fields => readEntries fields
  | _ => .fail .notDictionary

def readTagged (readKind? : String → Option (Fields → Checked α)) : Json → Checked α
  | .obj fields =>
    match Json.lookup "type" fields with
    | none => .fail .tagMissing
    | some (.str tag) =>
      match readKind? tag with
      | some read => (read fields).under (.field tag)
      | none => .fail .tagUnknown
    | some _ => .fail .tagUnknown
  | _ => .fail .notObject

end Parley.Schema
