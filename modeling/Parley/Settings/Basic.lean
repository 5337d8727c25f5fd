import Parley.Engine.Options
import Parley.Json.Basic

/-!
The settings of an installation. Numbers are read into numbers; the other settings are kept as they
are written.
-/

namespace Parley

structure EngineSettings where
  maxSteps : Int := 100
  maxDelaySeconds : Float := 20
  bootstrapDefaultBlocks : Json := .bool true
  interruptKeywords : Json := .arr [.str "restart", .str "start over"]
  apologyMessage : Json := ({} : Options).apology
  notConfiguredMessage : Json := ({} : Options).notConfigured
  welcomeText : Json := .str ({} : Options).welcomeText
  defaultAnswerText : Json := .str ({} : Options).defaultAnswerText

structure DatabaseSettings where
  url : Json := .str "sqlite:///./blockflow.db"
  storeBackend : Json := .str "memory"
  poolSize : Int := 10

structure MessengerSettings where
  graphApiUrl : Json := .str "https://graph.facebook.com/v18.0"
  timeoutSeconds : Float := 10
  maxRetries : Int := 3

structure QueueSettings where
  mailboxSize : Int := 100
  /-- A whole number unless the settings have a section for the queue. -/
  idleTimeoutSeconds : Json := .int 300

structure Settings where
  appName : Json := .str "BlockFlow"
  debug : Json := .bool false
  logLevel : Json := .str "info"
  logJson : Json := .bool false
  engine : EngineSettings := {}
  database : DatabaseSettings := {}
  messenger : MessengerSettings := {}
  queue : QueueSettings := {}

namespace EngineSettings

def toJson (engine : EngineSettings) : Json :=
  .obj [("max_steps", .int engine.maxSteps), ("max_delay_seconds", .float engine.maxDelaySeconds),
    ("bootstrap_default_blocks", engine.bootstrapDefaultBlocks),
    ("interrupt_keywords", engine.interruptKeywords), ("apology_message", engine.apologyMessage),
    ("not_configured_message", engine.notConfiguredMessage), ("welcome_text", engine.welcomeText),
    ("default_answer_text", engine.defaultAnswerText)]

def options (engine : EngineSettings) : Except KeywordFault Options := do
  return {
    maxSteps := engine.maxSteps
    maxDelaySeconds := engine.maxDelaySeconds
    bootstrap := engine.bootstrapDefaultBlocks.isPresent
    interrupts := ← Options.keywords engine.interruptKeywords
    apology := engine.apologyMessage
    notConfigured := engine.notConfiguredMessage
    welcomeText := Options.spoken engine.welcomeText
    defaultAnswerText := Options.spoken engine.defaultAnswerText }

end EngineSettings

namespace Settings

def toJson (settings : Settings) : Json :=
  .obj [("app_name", settings.appName), ("debug", settings.debug),
    ("log_level", settings.logLevel), ("log_json", settings.logJson),
    ("engine", settings.engine.toJson),
    ("database", .obj [("url", settings.database.url),
      ("store_backend", settings.database.storeBackend),
      ("pool_size", .int settings.database.poolSize)]),
    ("messenger", .obj [("graph_api_url", settings.messenger.graphApiUrl),
      ("timeout_seconds", .float settings.messenger.timeoutSeconds),
      ("max_retries", .int settings.messenger.maxRetries)]),
    ("queue", .obj [("mailbox_size", .int settings.queue.mailboxSize),
      ("idle_timeout_seconds", settings.queue.idleTimeoutSeconds)])]

end Settings

end Parley
