import Parley.Engine.Step
import Parley.Turn.Resolve

/-!
What the engine decided, written out for a log: the effects and the transition of a step, and what a
message was resolved to.
-/

namespace Parley

def Cursor.toJson : Cursor → Json
  | .card owner index => .arr [.str owner.id, .int index]
  | .node owner current => .arr [.str owner.id, .str current.id]

def Transition.toJson : Transition → Json
  | .goto cursor => .obj [("t", .str "goto"), ("at", cursor.toJson)]
  | .await cursor prompt =>
    .obj [("t", .str "await"), ("at", cursor.toJson), ("prompt", .ofOption prompt)]
  | .done => .obj [("t", .str "done")]

def Effect.toJson : Effect → Json
  | .send message =>
    .obj [("t", .str "send"), ("kind", .str message.kind), ("payload", message.payload),
      ("log", .str message.logText), ("type", .str message.logType)]
  | .wait pause =>
    .obj [("t", .str "wait"), ("seconds", .float pause.seconds), ("typing", .bool pause.showTyping)]

/-- The effects of a step in their order, and its transition after them. -/
def Step.toJson (step : Step) : Json := .arr (step.effects.map (·.toJson) ++ [step.next.toJson])

def Target.toFields : Target → List (String × Json)
  | .block chosen =>
    [("kind", .str "block"), ("target", .str chosen.id), ("name", .str chosen.name)]
  | .flow chosen => [("kind", .str "flow"), ("target", .str chosen.id), ("name", .str chosen.name)]

def Resolution.toJson (resolution : Resolution) : Json :=
  .obj (resolution.target.toFields ++ [("reason", .str resolution.reason.name)])

end Parley
