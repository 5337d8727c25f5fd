import Parley.Outbound
import Parley.Record.TurnResult
import Parley.Source

/-!
The kinds of records: how data is checked against each, and what a valid record reads like when it
is written out again.
-/

namespace Parley.Catalogue

open Schema

inductive Kind where
  | bot
  | block
  | flow
  | session
  | contact
  | logEntry
  | dailyCount
  | turnResult
  | outboundButton
  | outboundCard
  | quickReply
  | quickReplies
  | cardButton
  | blockReply
  | flowReply
  | edge
  | card (kind : CardKind)
  | node (kind : NodeKind)
  deriving DecidableEq, Repr

/-- Reads a record and writes it out again. -/
def dumped {α : Type} (read : Json → Checked α) (toJson : α → Json) (value : Json) :
    Checked Json := toJson <$> read value

def drawn {α : Type} (read : Json → Draw (Checked α)) (toJson : α → Json) (value : Json) :
    Draw (Checked Json) := return toJson <$> (← read value)

/-- Checks data against a kind of record. Records of their own take an id and times from the source
where the data gives none. -/
def check (kind : Kind) (value : Json) : Draw (Checked Json) :=
  match kind with
  | .bot => drawn Source.readBot (Bot.toJson .authored) value
  | .block => drawn Source.readBlock (Block.toJson .authored) value
  | .flow => drawn Source.readFlow (Flow.toJson .authored) value
  | .session => drawn Source.readSession Session.toJson value
  | .contact => drawn Source.readContact (Contact.toJson Timestamp.print) value
  | .logEntry => drawn Source.readLogEntry (LogEntry.toJson Timestamp.print) value
  | .dailyCount => return dumped DailyCount.read DailyCount.toJson value
  | .turnResult => return dumped TurnResult.read TurnResult.toJson value
  | .outboundButton => return dumped OutboundButton.read OutboundButton.toJson value
  | .outboundCard => return dumped OutboundCard.read OutboundCard.toJson value
  | .quickReply => return dumped QuickReply.read QuickReply.toJson value
  | .quickReplies => return dumped QuickReplies.read QuickReplies.toJson value
  | .cardButton => return dumped CardButton.read (CardButton.toJson .authored) value
  | .blockReply => return dumped BlockReply.read (BlockReply.toJson .authored) value
  | .flowReply => return dumped FlowReply.read FlowReply.toJson value
  | .edge => return dumped Edge.read (Edge.toJson .authored) value
  | .card kind => return dumped (record (Card.readKind kind)) (Card.toJson .authored) value
  | .node kind => return dumped (record (Node.readKind kind)) (Node.toJson .authored) value

end Parley.Catalogue
