import Parley.Number.Numeral
import Parley.Text.Lowercase
import Parley.Text.Word
import Parley.Url.Notation

/-!
The address of a server in its normal form: scheme and host in lower case, no port that the scheme
implies, no dots that lead nowhere, and every character that a URL cannot hold in percent notation.
-/

namespace Parley.Url

open Parley.Text Parley.Number

inductive AddressFault where
  | tooLong
  | controlCharacter (c : Char) (position : Nat)
  | badPort (port : List Char)
  | badNumber (host : List Char)
  | badName (host : List Char)
  | pathWithoutSlash
  | pathWithSlashes
  | pathWithColon
  deriving DecidableEq, Repr

def AddressFault.message : AddressFault → String
  | .tooLong => "URL too long"
  | .controlCharacter c position =>
    "Invalid non-printable ASCII character in URL, " ++ String.ofList (quoted [c]) ++
      " at position " ++ toString position ++ "."
  | .badPort port => "Invalid port: " ++ String.ofList (quoted port)
  | .badNumber host => "Invalid IPv4 address: " ++ String.ofList (quoted host)
  | .badName host => "Invalid IDNA hostname: " ++ String.ofList (quoted host)
  | .pathWithoutSlash => "For absolute URLs, path must be empty or begin with '/'"
  | .pathWithSlashes => "Relative URLs cannot have a path starting with '//'"
  | .pathWithColon => "Relative URLs cannot have a path starting with ':'"

structure Address where
  scheme : List Char := []
  user : List Char := []
  host : List Char := []
  port : Option Int := none
  path : List Char := []
  hasQuery : Bool := false
  deriving DecidableEq, Repr

namespace Address

/-! ### The parts of a text -/

def isSchemeChar (c : Char) : Bool := c.isAlphanum || c = '+' || c = '.' || c = '-'

def splitScheme (text : List Char) : List Char × List Char :=
  let name := text.takeWhile isSchemeChar
  match text.dropWhile isSchemeChar with
  | ':' :: rest => if (name.head?.all Char.isAlpha) then (name, rest) else ([], text)
  | _ => ([], text)

def splitAuthority (text : List Char) : List Char × List Char :=
  let inside (c : Char) : Bool := c ≠ '/' && c ≠ '?' && c ≠ '#'
  match text with
  | '/' :: '/' :: rest => (rest.takeWhile inside, rest.dropWhile inside)
  | _ => ([], text)

def splitUser (authority : List Char) : List Char × List Char :=
  match authority.dropWhile (· ≠ '@') with
  | _ :: rest => (authority.takeWhile (· ≠ '@'), rest)
  | [] => ([], authority)

def splitHost (place : List Char) : List Char × List Char :=
  let bracketed := (place.reverse.dropWhile (· ≠ ']')).reverse
  let host :=
    if place.head? = some '[' && !bracketed.isEmpty then bracketed
    else place.takeWhile fun c => c ≠ ':' && c ≠ '@'
  match place.drop host.length with
  | ':' :: port => (host, port)
  | rest => (host, rest)

/-! ### Normal forms of the parts -/

def isSubDelimiter (c : Char) : Bool := "!$&'()*+,;=".contains c

/-- Printable characters that are not plain separators. -/
def isPathSafe (c : Char) : Bool :=
  0x20 < c.toNat && c.toNat < 0x7f && !"\"#<>?`\x7b\x7d".contains c

def isUserSafe (c : Char) : Bool := isPathSafe c && !"/;=@[\\]^|".contains c

def isHostSafe (c : Char) : Bool := isSubDelimiter c || "\"`\x7b\x7d%|\\".contains c

/-- Whether a text consists of digits, `more` times followed by a character and digits again;
`started` says whether a digit stands in front. -/
def looksNumeric (more : Nat) (started : Bool) : List Char → Bool
  | [] => started && more = 0
  | c :: rest =>
    (isAsciiDigit c && looksNumeric more true rest) ||
      (started && 0 < more && looksNumeric (more - 1) false rest)

def splitAt (separator : Char) (text : List Char) : List (List Char) :=
  text.foldr (fun c parts =>
    if c = separator then [] :: parts
    else
      match parts with
      | part :: rest => (c :: part) :: rest
      | [] => [[c]]) [[]]

def isByte (part : List Char) : Bool :=
  !part.isEmpty && part.length ≤ 3 && part.all isAsciiDigit && numeralValue part ≤ 255 &&
    (part.length = 1 || part.head? ≠ some '0')

def isPlain (text : List Char) : Bool := text.all Punycode.isPlain

def plainLabel (label : List Char) : List Char :=
  if isPlain label then label else "xn--".toList ++ Punycode.encode label

def normalHost (host : List Char) : Except AddressFault (List Char) :=
  if host.head? = some '[' && host.getLast? = some ']' then .ok host
  else if looksNumeric 3 false host then
    let parts := splitAt '.' host
    if parts.length = 4 && parts.all isByte then .ok host else .error (.badNumber host)
  else if isPlain host then .ok (encode isHostSafe (lower host))
  else
    let labels := splitAt '.' (lower host)
    if labels.all fun label => label.all fun c => isWord c || c = '-' then
      .ok (List.intercalate ['.'] (labels.map plainLabel))
    else .error (.badName host)

def impliedPort? (scheme : List Char) : Option Int :=
  match String.ofList scheme with
  | "ftp" => some 21
  | "http" => some 80
  | "https" => some 443
  | "ws" => some 80
  | "wss" => some 443
  | _ => none

def normalPort (scheme port : List Char) : Except AddressFault (Option Int) :=
  if port.isEmpty then .ok none
  else
    match settingInt (String.ofList port) with
    | .number n => .ok (if impliedPort? scheme = some n then none else some n)
    | _ => .error (.badPort port)

/-- Leaves out the parts of a path that are a dot, and takes back a part for every two dots. -/
def dropDots (parts : List (List Char)) : List (List Char) :=
  (parts.foldl (fun kept part =>
    if part = ['.'] then kept
    else if part = ['.', '.'] then (if kept = [[]] then kept else kept.drop 1)
    else part :: kept) []).reverse

def normalPath (path : List Char) : List Char :=
  encode isPathSafe (List.intercalate ['/'] (dropDots (splitAt '/' path)))

def checkPath (relative : Bool) (hasAuthority : Bool) (path : List Char) :
    Except AddressFault Unit :=
  if hasAuthority && !path.isEmpty && path.head? ≠ some '/' then .error .pathWithoutSlash
  else if relative && path.take 2 = ['/', '/'] then .error .pathWithSlashes
  else if relative && path.head? = some ':' then .error .pathWithColon
  else .ok ()

/-! ### Whole addresses -/

def maxLength : Nat := 65536

def isControl (c : Char) : Bool := c.toNat < 0x20 || c.toNat = 0x7f

def control? (text : List Char) : Option (Char × Nat) :=
  (text.find? isControl).map fun c => (c, text.findIdx isControl)

/-- Reads an address; what follows a hash sign is left out. -/
def read (text : List Char) : Except AddressFault Address := do
  if maxLength < text.length then throw .tooLong
  if let some (c, position) := control? text then throw (.controlCharacter c position)
  let (scheme, rest) := splitScheme text
  let (authority, rest) := splitAuthority rest
  let path := rest.takeWhile fun c => c ≠ '?' && c ≠ '#'
  let hasQuery := (rest.drop path.length).head? = some '?'
  let (user, place) := splitUser authority
  let (host, port) := splitHost place
  let lowScheme := lower scheme
  let host ← normalHost host
  let port ← normalPort lowScheme port
  let hasAuthority := !user.isEmpty || !host.isEmpty || port.isSome
  let relative := scheme.isEmpty && !hasAuthority
  checkPath relative hasAuthority path
  return {
    scheme := lowScheme, user := encode isUserSafe user, host, port
    path := if relative then encode isPathSafe path else normalPath path
    hasQuery }

def authority (address : Address) : List Char :=
  (if address.user.isEmpty then [] else address.user ++ ['@']) ++ address.host ++
    match address.port with
    | some port => ':' :: (toString port).toList
    | none => []

def print (address : Address) : String :=
  String.ofList
    ((if address.scheme.isEmpty then [] else address.scheme ++ [':']) ++
      (if address.authority.isEmpty then [] else ['/', '/'] ++ address.authority) ++ address.path)

/-- An address with something more at the end of its path. What follows a question mark swallows
that. -/
def under (suffix : List Char) (address : Address) : Address :=
  let path := if address.path.isEmpty then ['/'] else address.path
  if address.hasQuery then { address with path }
  else { address with path := path ++ (if path.getLast? = some '/' then suffix else '/' :: suffix) }

end Address

end Parley.Url
