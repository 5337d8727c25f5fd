import Parley.Content.Flow
import Parley.Outbound

/-!
What one card or node asks for: effects to perform in order, and then how the turn goes on.
-/

namespace Parley

inductive Effect where
  | send (message : Message)
  | wait (pause : Pause)
  deriving DecidableEq, Repr

/-- A place in authored content. A negative index counts from the last card. -/
inductive Cursor where
  | card (block : Block) (index : Int)
  | node (flow : Flow) (node : Node)
  deriving DecidableEq, Repr

inductive Transition where
  | goto (cursor : Cursor)
  /-- Sends the prompt and parks the session. -/
  | await (cursor : Cursor) (prompt : Option String)
  | done
  deriving DecidableEq, Repr

structure Step where
  effects : List Effect := []
  next : Transition
  deriving DecidableEq, Repr

def Cursor.entered : Cursor → Option String
  | .card block 0 => some block.id
  | _ => none

/-- The effect of sending a text, none for the empty text. -/
def sendText (text : String) : List Effect := if text = "" then [] else [.send (.text text)]

def Transition.prompt : Transition → List Effect
  | .await _ prompt => sendText (prompt.getD "")
  | _ => []

def Block.begin (block : Block) : Transition := .goto (.card block 0)

end Parley
