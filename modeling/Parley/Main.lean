import Parley.Command.Chat
import Parley.Command.Migrate
import Parley.Command.Sample
import Parley.Json.Parser
import Parley.Settings.Shipped

/-!
The command line: `chat` talks to a bot in the terminal, and `migrate` creates the tables of a
database.
-/

namespace Parley.Main

/-- The definition of a bot; `sample` stands for the bot that comes with an installation. -/
def readDefinition (path : String) : IO (Option Json) := do
  if path = "sample" then return some Sample.definition
  return Json.parse? (← IO.FS.readFile path)

def pause (scale seconds : Float) : IO Unit := IO.sleep (seconds * scale * 1000).toUInt32

partial def chatLoop (options : Options) (bot : Bot) (setup : Chat.Setup) (world : World Console) :
    IO Unit := do
  let output ← IO.getStdout
  output.putStr world.gateway.medium.output
  output.flush
  let line ← (← IO.getStdin).getLine
  if line.isEmpty then return ()
  let fresh := { world with
    sleeps := []
    calls := []
    gateway := { world.gateway with medium := { world.gateway.medium with output := "" } } }
  let text := (Chat.linesOf line).headD ""
  let (_, answered) := (Chat.say options bot setup.senderId text).run fresh
  answered.sleeps.forM fun nap => pause setup.delayScale nap.seconds
  chatLoop options bot setup answered

def chat (arguments : List String) : IO UInt32 := do
  let some (path, setup) := Chat.Setup.ofArguments? arguments | return 2
  let some definition ← readDefinition path | return 1
  let source : Source := { micros := (← IO.monoNanosNow) / 1000 }
  match Settings.read [] Settings.shipped with
  | .error _ => return 1
  | .ok settings =>
    match Chat.open? source settings setup .json definition with
    | .error _ => return 1
    | .ok ready =>
      chatLoop ready.options ready.bot setup ready.world
      return 0

def migrate (arguments : List String) : IO UInt32 := do
  let some setup := Migrate.Setup.ofArguments? arguments | return 2
  let defaultUrl := Settings.shippedDatabase.field "url"
  let outcome := Migrate.run defaultUrl.text setup {}
  for line in outcome.lines do IO.println line
  return if outcome.fault.isSome then 1 else 0

end Parley.Main

def main (arguments : List String) : IO UInt32 :=
  match arguments with
  | "chat" :: rest => Parley.Main.chat rest
  | "migrate" :: rest => Parley.Main.migrate rest
  | _ => return 2
