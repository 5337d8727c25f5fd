import Parley.Text.Ranges

/-!
Arguments of a command: options with or without a value, by name or by the start of a name that is
no other's, and the rest in order.
-/

namespace Parley.Command

structure OptionSpec where
  name : String
  takesValue : Bool
  deriving DecidableEq, Repr

structure Arguments where
  options : List (String × String) := []
  others : List String := []
  deriving DecidableEq, Repr

namespace Arguments

/-- The value of an option; the last one counts. -/
def value? (name : String) (arguments : Arguments) : Option String :=
  (arguments.options.reverse.find? (·.1 = name)).map (·.2)

def has (name : String) (arguments : Arguments) : Bool := (arguments.value? name).isSome

def splitValue (text : String) : String × Option String :=
  let name := text.toList.takeWhile (· ≠ '=')
  match text.toList.dropWhile (· ≠ '=') with
  | [] => (text, none)
  | _ :: value => (String.ofList name, some (String.ofList value))

def helpSpecs : List OptionSpec := [⟨"-h", false⟩, ⟨"--help", false⟩]

/-- The options that a text may mean: the one that it names in full, or those whose names start with
it. One hyphen and a letter may be followed by a value. -/
def meant (specs : List OptionSpec) (text : String) : List OptionSpec :=
  let known := helpSpecs ++ specs
  let name := (splitValue text).1
  match known.find? fun spec => spec.name = text || spec.name = name with
  | some spec => [spec]
  | none =>
    if text.startsWith "--" then known.filter fun spec => name.toList.isPrefixOf spec.name.toList
    else known.filter fun spec => spec.name.toList = text.toList.take 2

def isDigit (c : Char) : Bool := (Text.digitValue? c).isSome

def isNegativeNumber (text : List Char) : Bool :=
  match text with
  | '-' :: rest =>
    let size := if rest.getLast? = some '\n' then rest.dropLast else rest
    let fraction := size.dropWhile isDigit
    match fraction with
    | [] => !size.isEmpty
    | '.' :: digits => !digits.isEmpty && digits.all isDigit
    | _ => false
  | _ => false

/-- Whether an argument reads as an option rather than as a value: it names one, or it could but for
a slip. -/
def isOption (specs : List OptionSpec) (text : String) : Bool :=
  let chars := text.toList
  chars.head? = some '-' && 1 < chars.length &&
    (!(meant specs text).isEmpty || !(isNegativeNumber chars || chars.contains ' '))

def named? (specs : List OptionSpec) (text : String) : Option OptionSpec :=
  match meant specs text with
  | [spec] => if helpSpecs.contains spec then none else some spec
  | _ => none

def add (name value : String) (arguments : Arguments) : Arguments :=
  { arguments with options := (name, value) :: arguments.options }

/-- Reads arguments; nothing results when one makes no sense. The options are in the order in which
they were given. -/
def read? (specs : List OptionSpec) : List String → Option Arguments
  | [] => some {}
  | text :: rest =>
    if isOption specs text then
      match named? specs text, (splitValue text).2 with
      | some ⟨full, true⟩, some value => (read? specs rest).map (add full value)
      | some ⟨full, true⟩, none =>
        match rest with
        | [] => none
        | value :: rest =>
          if isOption specs value then none else (read? specs rest).map (add full value)
      | some ⟨full, false⟩, none => (read? specs rest).map (add full "")
      | _, _ => none
    else (read? specs rest).map fun arguments => { arguments with others := text :: arguments.others }

end Arguments

end Parley.Command
