import Parley.Schema.Reader

/-!
Contacts: what is known about the senders that wrote to a bot.
-/

namespace Parley

open Schema

structure Contact where
  id : String
  botId : String
  senderId : String
  name : Option String := none
  profilePic : Option String := none
  platform : String := "facebook"
  messageCount : Int := 0
  firstSeenAt : Timestamp
  lastSeenAt : Timestamp
  deriving DecidableEq, Repr

namespace Contact

def read (freshId : String) (first last : Timestamp) : Json → Checked Contact :=
  record fun fields =>
    Contact.mk <$> withDefault (key "id") freshId readText fields <*>
      required (key "bot_id") readText fields <*> required (key "sender_id") readText fields <*>
      textField? (key "name") fields <*> textField? (key "profile_pic") fields <*>
      withDefault (key "platform") "facebook" readText fields <*>
      withDefault (key "message_count") 0 readInt fields <*>
      withDefault (key "first_seen_at") first readTimestamp fields <*>
      withDefault (key "last_seen_at") last readTimestamp fields

def toJson (timeText : Timestamp → String) (contact : Contact) : Json :=
  .obj [("id", .str contact.id), ("bot_id", .str contact.botId),
    ("sender_id", .str contact.senderId), ("name", .ofOption contact.name),
    ("profile_pic", .ofOption contact.profilePic), ("platform", .str contact.platform),
    ("message_count", .int contact.messageCount),
    ("first_seen_at", .str (timeText contact.firstSeenAt)),
    ("last_seen_at", .str (timeText contact.lastSeenAt))]

/-- Another message of a known sender. A name or picture that is given replaces the old one. -/
def visit (now : Timestamp) (name profilePic : Option String) (contact : Contact) : Contact :=
  { contact with
    lastSeenAt := now
    messageCount := contact.messageCount + 1
    name := if name.getD "" = "" then contact.name else name
    profilePic := if profilePic.getD "" = "" then contact.profilePic else profilePic }

end Contact

end Parley
