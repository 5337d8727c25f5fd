import Parley.Command.Arguments
import Parley.Store.DatabaseUrl

/-!
The command that creates the tables of a database, or says which of them are there.
-/

namespace Parley.Migrate

def tables : List String :=
  ["bots", "user_sessions", "blocks", "flows", "contacts", "messages", "analytics"]

def specs : List Command.OptionSpec := [⟨"--check", false⟩, ⟨"--url", true⟩]

structure Setup where
  checkOnly : Bool := false
  url : Option String := none
  deriving DecidableEq, Repr

def Setup.ofArguments? (arguments : List String) : Option Setup := do
  let read ← Command.Arguments.read? specs arguments
  if !read.others.isEmpty then none
  return { checkOnly := read.has "--check", url := read.value? "--url" }

/-- What follows the last at sign of a URL, where the password would be. -/
def withoutPassword (url : String) : String :=
  String.ofList (url.toList.reverse.takeWhile (· ≠ '@')).reverse

def sorted (names : List String) : List String := names.mergeSort (· ≤ ·)

def listed (names : List String) : String := ", ".intercalate names

def report (existing : List String) : List String :=
  let missing := tables.filter fun table => !existing.contains table
  ("Tables existing: " ++ (if existing.isEmpty then "(none)" else listed existing)) ::
    if missing.isEmpty then ["All tables exist. ✓"]
    else ["Tables MISSING: " ++ listed (sorted missing), "Run without --check to create them."]

structure Disk where
  folders : List (List String) := []
  files : List (List String) := []
  deriving DecidableEq, Repr

namespace Disk

def holds (place : DatabaseUrl.Place) (disk : Disk) : Bool :=
  match place with
  | .file path _ => disk.files.contains path
  | _ => false

/-- Creates the tables; those in memory are gone when the command ends. -/
def create (place : DatabaseUrl.Place) (disk : Disk) : Disk :=
  match place with
  | .file path _ => { disk with files := path :: disk.files }
  | _ => disk

end Disk

structure Outcome where
  lines : List String := []
  fault : Option DatabaseFault := none
  disk : Disk
  deriving DecidableEq, Repr

def runAt (place : DatabaseUrl.Place) (checkOnly : Bool) (heading : List String) (disk : Disk) :
    Outcome :=
  let announced := heading ++
    [if checkOnly then "Tables defined: " ++ listed tables else "Running database migration..."]
  if !DatabaseUrl.isReachable disk.folders disk.files place then
    { lines := announced, fault := some .unreachable, disk }
  else if checkOnly then
    { lines := announced ++ report (if disk.holds place then sorted tables else []), disk }
  else
    { lines := announced ++
        ["Tables created/verified: " ++ listed (sorted tables), "Migration complete. ✓"]
      disk := disk.create place }

/-- One run of the command; an empty URL is none. -/
def run (defaultUrl : String) (setup : Setup) (disk : Disk) : Outcome :=
  let given := (setup.url.filter (· ≠ "")).getD defaultUrl
  match DatabaseUrl.open? given with
  | .error fault => { fault := some fault, disk }
  | .ok place =>
    let url := DatabaseUrl.withDriver given
    let heading :=
      ["Database: " ++ DatabaseUrl.dialect url, "URL: " ++ withoutPassword url]
    runAt place setup.checkOnly heading disk

end Parley.Migrate
