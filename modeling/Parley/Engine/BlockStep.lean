import Parley.Engine.Step
import Parley.Failure
import Parley.Record.Session
import Parley.Reply
import Parley.Template

/-!
How a block runs: its cards one after the other. A question parks the session until the reply
comes, and a jump continues with the first card of another block.
-/

namespace Parley

abbrev FindBlock := (botId blockId : String) → Except Failure (Option Block)

/-- A text with the variables of a conversation filled in. -/
def Context.fill (context : Context) (text : String) : String := Template.fill context.get? text

/-- The value of a field that counts as left out when it is empty. -/
def Context.fill? (context : Context) (text : Option String) : Option String :=
  (nonEmpty text).map context.fill

namespace Picture

/-- A picture without address is not sent, and nothing of it. -/
def effects (context : Context) (picture : Picture) : List Effect :=
  if picture.url = "" then []
  else
    .send (.image picture.url) ::
      (match context.fill? picture.caption with
      | some caption => [.send (.text caption)]
      | none => [])

end Picture

namespace Gallery

def outbound (context : Context) (gallery : Gallery) : OutboundCard where
  title := context.fill gallery.title
  subtitle := context.fill? gallery.subtitle
  imageUrl := nonEmpty gallery.imageUrl
  buttons := gallery.buttons.map OutboundButton.ofCardButton

end Gallery

namespace BlockReply

/-- A quick reply sends the payload of its block, or its title if it names none. -/
def outbound (reply : BlockReply) : QuickReply where
  title := reply.title
  payload := ((nonEmpty reply.blockId).map blockPayload).getD reply.title

end BlockReply

namespace Block

/-- The block to which a block leads, if it is there for the bot and enabled. -/
def target? (find : FindBlock) (source : Block) (blockId : String) :
    Except Failure (Option Block) := do
  return (← find source.botId blockId).filter (·.isEnabled)

/-- Where a jump leads: to the first card of its target, or to the end. -/
def jump (find : FindBlock) (source : Block) (blockId : String) : Except Failure Transition := do
  match ← source.target? find blockId with
  | some target => return target.begin
  | none => return .done

/-- The place of a card in its block; a negative index counts from the end. -/
def place (block : Block) (index : Int) : Int :=
  if index < 0 then block.cards.length + index else index

/-- One card. After the last card the block is finished. -/
def step (find : FindBlock) (context : Context) (block : Block) (index : Int) :
    Except Failure Step := do
  let next : Transition := .goto (.card block (index + 1))
  if block.place index < 0 then throw (.noCard block.id index)
  match block.cards[(block.place index).toNat]? with
  | none => return { next := .done }
  | some card =>
    match card.content with
    | .text text => return { effects := sendText (context.fill text), next }
    | .image picture => return { effects := picture.effects context, next }
    | .gallery gallery => return { effects := [.send (.card (gallery.outbound context))], next }
    | .quickReply text buttons =>
      let message := context.fill text
      if message = "" then return { next }
      else
        let replies : QuickReplies := ⟨message, buttons.map (·.outbound)⟩
        return { effects := [.send (.quickReplies replies)], next }
    | .userInput prompt _ _ =>
      return { next := .await (.card block index) (some (context.fill prompt)) }
    | .delay pause => return { effects := [.wait pause], next }
    | .goToBlock blockId => return { next := ← block.jump find blockId }

def input? (block : Block) (index : Int) : Option (String × Option String) :=
  if index < 0 then none
  else
    match block.cards[index.toNat]? with
    | some ⟨_, .userInput _ variableName nextBlockId⟩ => some (variableName, nextBlockId)
    | _ => none

end Block

namespace Session

/-- Takes a message as the reply to the question on which a session is parked in a block. Nothing
results when the block is gone. -/
def resumeBlock (find : FindBlock) (session : Session) (message : String) (context : Context) :
    Except Failure (Option (Transition × Context)) := do
  match ← find session.botId (session.currentBlockId.getD "") with
  | none => return none
  | some block =>
    let index := session.currentCardIndex
    match block.input? index with
    | none => throw (.notAnInput block.id index session.botId session.senderId)
    | some (variableName, nextBlockId) =>
      let context := context.set variableName (Reply.clean message)
      match nonEmpty nextBlockId with
      | some blockId => return some (← block.jump find blockId, context)
      | none => return some (.goto (.card block (index + 1)), context)

end Session

end Parley
