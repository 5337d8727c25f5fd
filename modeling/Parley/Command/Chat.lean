import Parley.Command.Arguments
import Parley.Gateway.Console
import Parley.Logging
import Parley.Settings.Reader
import Parley.Store.Factory
import Parley.Turn.Execute

/-!
A chat with a bot in the console. A definition of a bot, its blocks and its flows is loaded into the
store, and every line of input is a message to the bot.
-/

namespace Parley.Chat

open Schema

inductive Fault where
  | settings (error : SettingsError)
  | level (misnomer : Logging.Misnomer)
  | store (fault : StoreFault)
  | notMapping
  | notEntries
  | invalid (issues : List Issue)
  | request (failure : Failure)
  | keywords (fault : KeywordFault)

/-- How the definition is written. In one of the two, an empty file is an empty definition. -/
inductive Format where
  | json
  | yaml
  deriving DecidableEq, Repr

structure Setup where
  senderId : String := "console-user"
  backend : Option String := none
  delayScale : Float := 1
  deriving DecidableEq, Repr

namespace Setup

def specs : List Command.OptionSpec :=
  [⟨"--sender", true⟩, ⟨"--delay-scale", true⟩, ⟨"--store", true⟩]

def backends : List String := ["memory", "sql"]

def ofArguments? (arguments : List String) : Option (String × Setup) := do
  let read ← Command.Arguments.read? specs arguments
  let path ← match read.others with
    | [path] => some path
    | _ => none
  let backend := read.value? "--store"
  if !backend.all backends.contains then none
  let delayScale ← match read.value? "--delay-scale" with
    | some scale => Number.settingFloat? scale
    | none => some 1
  return (path, { senderId := (read.value? "--sender").getD "console-user", backend, delayScale })

end Setup

abbrev ChatM := ExceptT Fault (StateM Storage)

def onStore {α : Type} (action : StoreM α) : ChatM α := do
  match ← (action.run : StateM Storage _) with
  | .ok value => return value
  | .error failure => throw (.request failure)

def ofChecked {α : Type} : Checked α → ChatM α
  | .valid value => return value
  | .invalid issues => throw (.invalid issues)

def owned (botId : String) : Json → ChatM Json
  | .obj fields => return .obj (Json.put "botId" (.str botId) fields)
  | _ => throw .notEntries

def entries (name : String) (fields : Fields) : ChatM (List Json) :=
  match (Json.lookup name fields).filter Json.isPresent with
  | none => return []
  | some (.arr items) => return items
  | some _ => throw .notEntries

def loadBlocks (botId : String) : List Json → ChatM Unit
  | [] => return ()
  | entry :: rest => do
    let given ← owned botId entry
    let block ← ofChecked (← onStore (Storage.draw (Source.readBlock given)))
    onStore (Storage.saveBlock block)
    loadBlocks botId rest

def loadFlows (botId : String) : List Json → ChatM Unit
  | [] => return ()
  | entry :: rest => do
    let given ← owned botId entry
    let flow ← ofChecked (← onStore (Storage.draw (Source.readFlow given)))
    onStore (Storage.saveFlow flow)
    loadFlows botId rest

def load (definition : Json) : ChatM Bot := do
  match definition with
  | .obj fields => do
    let given := ((Json.lookup "bot" fields).filter Json.isPresent).getD
      (.obj [("name", .str "Console Bot")])
    let bot ← ofChecked (← onStore (Storage.draw (Source.readBot given)))
    onStore (Storage.saveBot bot)
    loadBlocks bot.id (← entries "blocks" fields)
    loadFlows bot.id (← entries "flows" fields)
    return bot
  | _ => throw .notMapping

/-- The lines of an input without their line feeds, the first of which has begun with `line`, last
character first. Nothing follows the last line feed. -/
def linesFrom (line : List Char) : List Char → List String
  | [] => if line.isEmpty then [] else [String.ofList line.reverse]
  | c :: rest =>
    if c = '\n' then String.ofList line.reverse :: linesFrom [] rest
    else linesFrom (c :: line) rest

def linesOf (input : String) : List String := linesFrom [] input.toList

def greeting (bot : Bot) (senderId : String) : String :=
  "Chatting with '" ++ (if bot.name = "" then bot.id else bot.name) ++ "' as " ++ senderId ++
    ". Ctrl-D to quit."

def say (options : Options) (bot : Bot) (senderId line : String) : WorldM Console Unit := do
  let incoming : Turn.Incoming := { senderId, text := line, profile := { platform := "console" } }
  let result ← Turn.execute Console.carry options bot incoming
  if !result.success then
    let line := "  (turn failed: " ++ result.error.getD "None" ++ ")"
    modify fun world =>
      { world with gateway := { world.gateway with medium := world.gateway.medium.note line } }

def sayAll (options : Options) (bot : Bot) (senderId : String) : List String → WorldM Console Unit
  | [] => return ()
  | line :: rest => do
    say options bot senderId line
    sayAll options bot senderId rest

def storeFor (settings : Settings) (setup : Setup) : Except Fault Store := do
  let database := match setup.backend with
    | some backend => { settings.database with storeBackend := .str backend }
    | none => settings.database
  match ← (StoreFactory.kindOf database).mapError .store with
  | .memory => return .memory {}
  | .sql _ place =>
    if DatabaseUrl.isReachable [] [] place then return .sql {}
    else throw (.store (.database .unreachable))

structure Ready where
  bot : Bot
  options : Options
  world : World Console

def open? (source : Source) (settings : Settings) (setup : Setup) (format : Format)
    (definition : Json) : Except Fault Ready := do
  let _ ← (Logging.threshold settings.logLevel).mapError .level
  let store ← storeFor settings setup
  let definition :=
    if format = .yaml && !definition.isPresent then Json.obj [] else definition
  let (outcome, storage) := (load definition).run { store, source }
  let bot ← outcome
  let options ← settings.engine.options.mapError .keywords
  let console := ({} : Console).note (greeting bot setup.senderId)
  return { bot, options, world := { storage, gateway := { name := "console", medium := console } } }

def transcript (source : Source) (settings : Settings) (setup : Setup) (format : Format)
    (definition : Json) (input : String) : Except Fault (String × Source) := do
  let ready ← open? source settings setup format definition
  let (_, world) :=
    (sayAll ready.options ready.bot setup.senderId (linesOf input)).run ready.world
  return (world.gateway.medium.output, world.storage.source)

end Parley.Chat
