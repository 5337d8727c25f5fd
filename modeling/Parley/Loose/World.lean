import Parley.Loose.Argument
import Parley.Time.Day
import Parley.Turn.Execute
import Parley.Variables

/-!
A bot and its store driven by hand, with loose arguments. What is told about a sender is looked at by
the store: a database keeps numbers as texts, and memory takes texts only.
-/

namespace Parley.Loose

open Schema

variable {σ α : Type}

/-- A call that acts on the world; what it did before it failed stays. -/
abbrev Act (σ : Type) := ExceptT Fault (WorldM σ)

def ofAnswer : Answer α → Act σ α
  | .ok value => return value
  | .error fault => throw fault

def tend (action : StateM Storage α) : Act σ α := ExceptT.lift (Turn.onStorage action)

def ask (action : StoreM α) : Act σ α := do
  match ← tend action.run with
  | .ok value => return value
  | .error failure => throw (.failed failure)

def draw (action : Draw α) : Act σ α := ask (Storage.draw action)

def drawValid (action : Draw (Checked α)) : Act σ α := do ofAnswer (ofChecked (← draw action))

def optionNames : List String :=
  ["max_steps", "max_delay_seconds", "bootstrap_default_blocks", "interrupt_keywords",
    "apology_message", "not_configured_message", "welcome_text", "default_answer_text"]

def options (given : Json) : Answer Options := do
  only optionNames given
  (Options.ofJson given).mapError ofKeywords

def variablePair (position : Nat) (given : Json) : Answer (String × Json) := do
  match ← itemsOf given with
  | [name, value] => return (← asText name, value)
  | parts =>
    throw (.meaningless ("dictionary update sequence element #" ++ toString position ++
      " has length " ++ toString parts.length ++ "; 2 is required"))

/-- Variables as an object, or as a list of pairs; of two with one name the last one counts. -/
def asVariables : Json → Answer Json
  | .obj fields => .ok (.obj fields)
  | given => do
    let pairs ← (← itemsOf given).zipIdx.mapM fun (pair, position) => variablePair position pair
    return .obj (pairs.foldl (fun fields (name, value) => Json.put name value fields) [])

def fillContext (given : Json) : Context :=
  given.fields.map fun (name, value) => (name, value.fillText)

def compareContext (given : Json) : Context :=
  given.fields.map fun (name, value) => (name, value.presentText?.getD "")

/-- Variables after a change: those that are as they were keep their kind. -/
def contextJson (given : Json) (context : Context) : Json :=
  let before := fillContext given
  .obj (context.map fun (name, value) =>
    (name, if before.get? name = some value then given.field name else .str value))

def columnText (value : Json) : Answer (Option String) :=
  (Cell.textOfJson value).mapError (.failed <| .column ·)

def keyOf : Json → Answer Json
  | .arr [value] => .ok value
  | .arr _ => .error .misfit
  | .obj [("id", value)] => .ok value
  | .obj _ => .error .misfit
  | value => .ok value

/-- An id to look for. A database takes numbers for texts; memory has no record under anything but a
text. -/
def asId (store : Store) (value : Json) : Answer (Option String) := do
  match store with
  | .sql _ => do
    let key ← keyOf value
    asKey key
    columnText key
  | .memory _ => do
    asKey value
    return value.text?

def lookUp (find : String → StoreM (Option α)) (id : Json) : Act σ (Option α) := do
  match ← ofAnswer (asId (← get).storage.store id) with
  | some id => ask (find id)
  | none => return none

/-- The id of the first block of a bot with a flag. Memory looks at the flag when it comes to a block
of the bot. -/
def findFlagged (botId : String) (flag : Json) : Act σ (Option String) := do
  ask (Storage.check .findFlagged)
  match flag, (← get).storage.store with
  | .str flag, _ => ask (Storage.findFlagged botId flag)
  | _, .memory memory => if (memory.listBlocks botId false).isEmpty then return none else throw .mistyped
  | _, .sql _ => throw .mistyped

def asDay (value : Json) : Answer Day := do
  (Day.read (← asText value)).mapError fun fault => .meaningless fault.message

def asDirection (value : Json) : Answer Direction :=
  match value.text?.bind Direction.ofName? with
  | some direction => .ok direction
  | none =>
    .error (.meaningless (String.ofList value.shown ++ " is not a valid MessageDirection"))

/-! ### Default blocks -/

def asCardText (options : Json) (name : String) : Answer Unit := do
  if let some text := options.get? name then
    let _ ← ofChecked (Schema.record (Schema.textField (Schema.key "text")) (.obj [("text", text)]))

/-- Requests that give a bot its default blocks. A text for one that is none is noticed when the block
is made. -/
def bootstrap (given : Json) (options : Options) (botId : String) :
    Nat → Bootstrap → Act σ Bootstrap
  | 0, state => return state
  | requests + 1, state => do
    match state with
    | .saveWelcome => ofAnswer (asCardText given "welcome_text")
    | .saveAnswer _ => ofAnswer (asCardText given "default_answer_text")
    | _ => pure ()
    bootstrap given options botId requests (← ask (Bootstrap.step options botId state))

def ensureDefaults (given : Json) (options : Options) (botId : String) : Act σ (List Block) := do
  match ← bootstrap given options botId Bootstrap.maxRequests .findWelcome with
  | .finished created _ => return created
  | _ => return []

/-! ### Senders -/

def profileNames : List String := ["name", "profile_pic", "platform"]

def isKnown (botId senderId : String) : Store → Bool
  | .memory memory => (memory.contact? botId senderId).isSome
  | .sql sql => (sql.contact? botId senderId).isSome

/-- What is told about a sender, as the store takes it. Of a known sender only what is present is
looked at, and the platform not at all. -/
def profile (botId senderId : String) (given : Json) (store : Store) : Answer Storage.Profile := do
  let name := given.field "name"
  let picture := given.field "profile_pic"
  let platform := given.fieldOr "platform" (.str "facebook")
  match store, isKnown botId senderId store with
  | .memory _, true => return { name := name.text?, picture := picture.text? }
  | .memory _, false => do
    let time : Timestamp := ⟨0, none⟩
    let contact ← ofChecked (Contact.read "" time time (.obj
      [("bot_id", .str botId), ("sender_id", .str senderId), ("name", name),
        ("profile_pic", picture), ("platform", platform)]))
    return { name := contact.name, picture := contact.profilePic, platform := contact.platform }
  | .sql _, known => do
    let kept (value : Json) : Json := if known && !value.isPresent then .null else value
    let fallback := ({} : Storage.Profile).platform
    return {
      name := ← columnText (kept name)
      picture := ← columnText (kept picture)
      platform := (← columnText (if known then .null else platform)).getD fallback }

/-- A request to the store that is known to fail before its arguments are looked at, or not. -/
def reach (request : Request) : Act σ Unit := do
  ask (Storage.check request)
  match (← get).storage.store with
  | .sql _ => ask Storage.begin
  | .memory _ => return ()

def upsertContact (botId senderId : String) (given : Json) : Act σ Contact := do
  ofAnswer (only profileNames given)
  reach .upsertContact
  let profile ← ofAnswer (profile botId senderId given (← get).storage.store)
  ask (Storage.upsertContact botId senderId profile)

def without (request : Request) (action : Act σ α) : Act σ α := do
  let broken := (← get).storage.broken
  let setBroken (broken : List Request) (world : World σ) : World σ :=
    { world with storage := { world.storage with broken } }
  modify (setBroken (request :: broken))
  let answer ← action
  modify (setBroken broken)
  return answer

/-- Runs an action with what is told about a sender. What the store does not take is not recorded. -/
def withProfile (botId senderId : String) (given : Json) (action : Storage.Profile → Act σ α) :
    Act σ α := do
  ofAnswer (only profileNames given)
  match profile botId senderId given (← get).storage.store with
  | .ok profile => action profile
  | .error _ => without .upsertContact (action {})

def track (botId senderId : String) (given : Json) : Act σ (Option Visit) :=
  withProfile botId senderId given fun profile =>
    tend (Bookkeeping.track botId senderId profile)

def log (botId senderId : String) (content direction given : Json) : Act σ Bool := do
  let direction ← ofAnswer (asDirection direction)
  ofAnswer (only ["message_type", "new_user"] given)
  let newUser := (given.field "new_user").isPresent
  match content, given.fieldOr "message_type" (.str "text") with
  | .str content, .str messageType =>
    tend (Bookkeeping.log botId senderId content direction messageType newUser)
  | _, _ => return false

/-! ### Messages -/

/-- How many entries are listed. Memory counts in whole numbers; a database takes what can be cut to
one, and null for all. -/
def entryLimit (store : Store) (limit : Json) : Answer (Option Int) :=
  match store, limit with
  | .memory _, limit => (asWhole limit).map some
  | .sql _, .null => .ok none
  | .sql _, limit => do
    let count ← limit.cut.mapError (.failed <| .notWhole ·)
    if Cell.isLong count then throw (.failed (.column .tooLarge))
    return some count

def listEntries (botId : String) (sender given : Json) : Act σ (List LogEntry) := do
  ofAnswer (only ["limit"] given)
  reach .listEntries
  let store := (← get).storage.store
  let limit ← ofAnswer (entryLimit store (given.fieldOr "limit" (.int 50)))
  match store, sender with
  | _, .null => ask (Storage.listEntries botId none limit)
  | _, .str senderId => ask (Storage.listEntries botId (some senderId) limit)
  | .memory _, _ => return []
  | .sql _, sender => do
    let senderId ← ofAnswer (columnText sender)
    ask (Storage.listEntries botId senderId limit)

/-! ### Steps -/

/-- The index of a card, which may be a number with a point if there is no such card. -/
def cardIndex (cards : Nat) (value : Json) : Answer Int := do
  match value with
  | .float _ => do
    let index ← asNumber value
    if cards ≤ index then return index.ceil else throw .mistyped
  | value => asWhole value

/-- Takes a message of any kind as the reply to the question on which a session is parked; one that
is no text is noticed where it is recorded. -/
def resumeBlock (session : Session) (message : Json) (context : Context) :
    Act σ (Option (Transition × Context)) := do
  let find := (← get).storage.findBlock
  let resume (text : String) : Act σ (Option (Transition × Context)) :=
    ofAnswer (ofFailure (session.resumeBlock find text context))
  match asReply message with
  | .ok chars => resume (String.ofList chars)
  | .error fault => do
    if (← resume "").isSome then throw fault
    return none

def resumeFlow (session : Session) (message : Json) (context : Context) :
    Act σ (Option (Transition × Context)) := do
  match asReply message with
  | .ok chars => ask (session.resumeFlow (String.ofList chars) context)
  | .error fault =>
    -- where there were no variables, one that is there was recorded
    match ← ask (session.resumeFlow "" []) with
    | some (_, _ :: _) => throw fault
    | _ => ask (session.resumeFlow "" context)

end Parley.Loose
