import Parley.Store.Cell

/-!
Why a turn or a request to the store can fail.
-/

namespace Parley

inductive RecordKind where
  | block
  | flow
  deriving DecidableEq, Repr

namespace RecordKind

def name : RecordKind → String
  | .block => "Block"
  | .flow => "Flow"

end RecordKind

inductive Failure where
  /-- The bot has no block and no flow that answers. -/
  | nothingToRun (botId senderId : String)
  | noStartNode (flowId botId : String)
  | invalidContent (kind : RecordKind) (id botId : String)
  | invalidSession (id botId senderId : String)
  /-- A session is parked on a card that asks nothing. -/
  | notAnInput (blockId : String) (index : Int) (botId senderId : String)
  | outOfSteps (limit : String) (steps : Nat)
  | blockRepeated (blockId : String) (steps : Nat)
  /-- A block has no card so far from its end. -/
  | noCard (blockId : String) (index : Int)
  | storeDown
  | keyTaken
  | unknownFlag (name : String)
  | column (fault : ColumnFault)
  | notWhole (fault : CutFault)
  deriving DecidableEq, Repr

namespace Failure

def message : Failure → String
  | .nothingToRun botId _ => "Bot " ++ botId ++ " has no block or flow to run"
  | .noStartNode flowId _ => "Flow " ++ flowId ++ " has no start node"
  | .invalidContent kind id _ => "Stored " ++ kind.name ++ " " ++ id ++ " failed validation"
  | .invalidSession id _ _ => "Session " ++ id ++ " failed validation"
  | .notAnInput blockId index _ _ =>
    "Block " ++ blockId ++ " card " ++ toString index ++ " is not a userInput card"
  | .outOfSteps limit _ => "Execution exceeded " ++ limit ++ " steps"
  | .blockRepeated blockId _ => "Block " ++ blockId ++ " entered twice in one turn"
  | .noCard .. => "list index out of range"
  | .storeDown => "database down"
  | .keyTaken => "<sql error>"
  | .unknownFlag name => "no flag " ++ name
  | .column .tooLarge => "Python int too large to convert to SQLite INTEGER"
  | .column .unknown => "no such column"
  | .column _ => "<sql error>"
  | .notWhole fault => fault.message

def isConfiguration : Failure → Bool
  | .nothingToRun .. => true
  | .noStartNode .. => true
  | _ => false

end Failure

end Parley
