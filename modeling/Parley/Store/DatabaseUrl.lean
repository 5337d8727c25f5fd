import Parley.Settings.Reader
import Parley.Text.Lowercase
import Parley.Text.Word
import Parley.Url.Notation

/-!
URLs of databases. The scheme names a kind of database and the driver for it; behind it stand a
server, the name of the database and options. The database of a file has no server, and its name is
a path.
-/

namespace Parley

inductive DatabaseFault where
  | notText
  /-- It is not a URL, or a server is named where a file is meant. -/
  | malformed
  | unknownDriver
  | missingDriver
  | blockingDriver
  | badPort (port : String)
  | badOption (error : SettingsError)
  | badSwitch (text : String)
  | unreachable
  deriving DecidableEq, Repr

namespace DatabaseFault

def message : DatabaseFault → String
  | .badPort port => (CutFault.unreadable port).message
  | .badOption error => error.message
  | .badSwitch text => "String is not true/false: " ++ String.ofList (Text.quoted text.toList)
  | _ => ""

end DatabaseFault

namespace DatabaseUrl

/-- The driver for a scheme; a scheme that is not known is its own driver. -/
def driver (scheme : String) : String :=
  match scheme with
  | "postgresql" => "postgresql+asyncpg"
  | "postgres" => "postgresql+asyncpg"
  | "mysql" => "mysql+aiomysql"
  | "mysql+pymysql" => "mysql+aiomysql"
  | "sqlite" => "sqlite+aiosqlite"
  | other => other

def splitScheme : List Char → List Char × List Char
  | [] => ([], [])
  | c :: rest =>
    if [':', '/', '/'].isPrefixOf (c :: rest) then ([], c :: rest)
    else
      let (scheme, tail) := splitScheme rest
      (c :: scheme, tail)

def withDriver (url : String) : String :=
  let (scheme, rest) := splitScheme url.toList
  driver (String.ofList scheme) ++ String.ofList rest

def dialect (url : String) : String :=
  let (scheme, _) := splitScheme (withDriver url).toList
  String.ofList (scheme.takeWhile (· ≠ '+'))

/-! ### Drivers -/

inductive Driver where
  | ready
  | blocking
  | missing
  deriving DecidableEq, Repr

def mysqlDrivers : List String :=
  ["", "aiomysql", "asyncmy", "cymysql", "mariadbconnector", "mysqlconnector", "mysqldb",
    "pymysql", "pyodbc"]

/-- The drivers of the databases that are served elsewhere; none is installed. -/
def serverDrivers : List (String × List String) :=
  [("postgresql", ["", "asyncpg", "pg8000", "psycopg", "psycopg2", "psycopg2cffi"]),
    ("mysql", mysqlDrivers), ("mariadb", mysqlDrivers),
    ("oracle", ["", "cx_oracle", "oracledb"]), ("mssql", ["", "aioodbc", "pymssql", "pyodbc"])]

def fileDriver? (name : String) : Option Driver :=
  match name with
  | "aiosqlite" => some .ready
  | "pysqlite" => some .blocking
  | "pysqlcipher" => some .missing
  | _ => none

def fileDialect : String := "sqlite"

def driver? (scheme : List Char) : Option Driver :=
  let dialect := String.ofList (scheme.takeWhile (· ≠ '+'))
  let name := String.ofList ((scheme.dropWhile (· ≠ '+')).drop 1)
  if dialect = fileDialect then fileDriver? name
  else if serverDrivers.any fun (known, names) => known = dialect && names.contains name then
    some .missing
  else none

/-! ### Parts -/

structure Parts where
  scheme : List Char
  server : List Char
  name : String
  options : List (String × String)
  deriving DecidableEq, Repr

def isSchemeChar (c : Char) : Bool := Text.isWord c || c = '+'

def pieces (separator : Char) (text : String) : List String := text.splitOn (String.singleton separator)

/-- The value of an option with a plus sign for every space. -/
def optionText (text : String) : String := Url.decode (text.replace "+" " ")

/-- Options with their values; one without a value does not count. -/
def optionsOf (query : String) : List (String × String) :=
  (pieces '&' query).filterMap fun option =>
    let name := option.toList.takeWhile (· ≠ '=')
    match option.toList.dropWhile (· ≠ '=') with
    | _ :: c :: value =>
      some (optionText (String.ofList name), optionText (String.ofList (c :: value)))
    | _ => none

def parts? (url : String) : Option Parts :=
  let (scheme, tail) := splitScheme url.toList
  match tail with
  | ':' :: '/' :: '/' :: rest =>
    if scheme.isEmpty || !scheme.all isSchemeChar then none
    else
      let server := rest.takeWhile fun c => c ≠ '/' && c ≠ '?'
      let rest := rest.drop server.length
      let name := (rest.takeWhile (· ≠ '?')).drop 1
      let query := (rest.dropWhile (· ≠ '?')).drop 1
      some { scheme, server, name := Url.decode (String.ofList name)
             options := optionsOf (String.ofList query) }
  | _ => none

def portOf (server : List Char) : String :=
  let host := (server.reverse.takeWhile fun c => c ≠ '@' && c ≠ ']').reverse
  String.ofList ((host.dropWhile (· ≠ ':')).drop 1)

/-! ### Options -/

def trueSwitches : List String := ["true", "yes", "on", "y", "t", "1"]

def falseSwitches : List String := ["false", "no", "off", "n", "f", "0"]

abbrev Outcome := Except DatabaseFault

def option? (name : String) (parts : Parts) : Option String :=
  (parts.options.find? (·.1 = name)).map (·.2)

def switch (name : String) (parts : Parts) : Outcome Bool :=
  match option? name parts with
  | none => .ok false
  | some text =>
    let word := String.ofList (Text.lower (Text.trim text.toList))
    if trueSwitches.contains word then .ok true
    else if falseSwitches.contains word then .ok false
    else .error (.badSwitch word)

def checkInt (name : String) (parts : Parts) : Outcome Unit :=
  match option? name parts with
  | none => .ok ()
  | some text => ((Settings.cutInt (.str text)).mapError .badOption).map fun _ => ()

def checkFloat (name : String) (parts : Parts) : Outcome Unit :=
  match option? name parts with
  | none => .ok ()
  | some text => ((Settings.float (.str text)).mapError .badOption).map fun _ => ()

/-! ### Places -/

/-- Where a database is: in memory, in a file, which is made if it may be, or on a server. -/
inductive Place where
  | memory
  | file (path : List String) (mayCreate : Bool)
  | server
  deriving DecidableEq, Repr

/-- A path without empty parts and dots. The first part of an absolute path is empty. -/
def normalPath (path : String) : List String :=
  let kept := (pieces '/' path).foldl (fun kept part =>
    if part = "" || part = "." then kept
    else if part = ".." then kept.drop 1
    else part :: kept) []
  (if path.startsWith "/" then [""] else []) ++ kept.reverse

def memoryName : String := ":memory:"

def placeOfUri (parts : Parts) : Place :=
  let path := (if parts.name.startsWith "file:" then parts.name.drop 5 else parts.name).toString
  let path := if path.startsWith "//" then (path.drop 2).toString else path
  match option? "mode" parts with
  | some "memory" => .memory
  | mode =>
    if path = "" || path = memoryName then .memory
    else .file (normalPath (Url.decode path)) (mode ≠ some "ro" && mode ≠ some "rw")

def placeOf (isUri : Bool) (parts : Parts) : Place :=
  if isUri then placeOfUri parts
  else if parts.name = "" || parts.name = memoryName then .memory
  else .file (normalPath parts.name) true

def noServers : List String := ["", "@", ":", ":@", "@:"]

def openFile (driver : Driver) (parts : Parts) : Outcome Place := do
  if !noServers.contains (String.ofList parts.server) then throw .malformed
  let isUri ← switch "uri" parts
  checkFloat "timeout" parts
  checkInt "detect_types" parts
  let _ ← switch "check_same_thread" parts
  checkInt "cached_statements" parts
  if driver = .blocking then throw .blockingDriver
  return placeOf isUri parts

def open? (url : String) : Outcome Place :=
  match parts? (withDriver url) with
  | none => .error .malformed
  | some parts =>
    let port := portOf parts.server
    match Number.settingInt port, driver? parts.scheme with
    | .number _, none => .error .unknownDriver
    | _, none => if port = "" then .error .unknownDriver else .error (.badPort port)
    | .number _, some .missing => .error .missingDriver
    | _, some .missing => if port = "" then .error .missingDriver else .error (.badPort port)
    | _, some driver => openFile driver parts

/-- The folders in which files can be made: the one where the program runs, and the topmost. -/
def knownFolders : List (List String) := [[], [""], ["", "tmp"]]

def isReachable (folders files : List (List String)) (place : Place) : Bool :=
  match place with
  | .file path mayCreate =>
    let known := folders ++ knownFolders
    known.contains path.dropLast && !known.contains path && (mayCreate || files.contains path)
  | _ => true

end DatabaseUrl

end Parley
