import Parley.Content.Button

/-!
Cards, the steps of a block: messages to send, a question to ask, a pause, or a jump.
-/

namespace Parley

open Schema

inductive CardKind where
  | text
  | image
  | gallery
  | quickReply
  | userInput
  | delay
  | goToBlock
  deriving DecidableEq, Repr

namespace CardKind

def all : List CardKind := [text, image, gallery, quickReply, userInput, delay, goToBlock]

def name : CardKind → String
  | .text => "text"
  | .image => "image"
  | .gallery => "gallery"
  | .quickReply => "quickReply"
  | .userInput => "userInput"
  | .delay => "delay"
  | .goToBlock => "goToBlock"

def ofName? (name : String) : Option CardKind := all.find? (·.name = name)

end CardKind

structure Gallery where
  title : String := ""
  subtitle : Option String := none
  imageUrl : Option String := none
  buttons : List CardButton := []
  deriving DecidableEq, Repr

structure Picture where
  url : String := ""
  caption : Option String := none
  deriving DecidableEq, Repr

structure Pause where
  seconds : Float := 0
  showTyping : Bool := false
  deriving DecidableEq, Repr

inductive CardContent where
  | text (text : String)
  | image (picture : Picture)
  | gallery (gallery : Gallery)
  | quickReply (text : String) (buttons : List BlockReply)
  | userInput (prompt variableName : String) (nextBlockId : Option String)
  | delay (pause : Pause)
  | goToBlock (blockId : String)
  deriving DecidableEq, Repr

structure Card where
  id : Option String := none
  content : CardContent
  deriving DecidableEq, Repr

namespace Field

def imageUrl : Key := ⟨"imageUrl", "image_url"⟩
def variableName : Key := ⟨"variableName", "variable_name"⟩
def nextBlockId : Key := ⟨"nextBlockId", "next_block_id"⟩
def showTyping : Key := ⟨"showTyping", "show_typing"⟩

end Field

namespace Gallery

def read (fields : Fields) : Checked Gallery :=
  Gallery.mk <$> textField (key "title") fields <*> textField? (key "subtitle") fields <*>
    textField? Field.imageUrl fields <*> withDefault (key "buttons") [] (readList CardButton.read) fields

def fields (spelling : Spelling) (gallery : Gallery) : Fields :=
  [("title", .str gallery.title), ("subtitle", .ofOption gallery.subtitle),
    (spelling.name Field.imageUrl, .ofOption gallery.imageUrl),
    ("buttons", .arr (gallery.buttons.map (·.toJson spelling)))]

end Gallery

namespace Picture

def read (fields : Fields) : Checked Picture :=
  Picture.mk <$> textField Field.imageUrl fields <*> textField? (key "caption") fields

def fields (spelling : Spelling) (picture : Picture) : Fields :=
  [(spelling.name Field.imageUrl, .str picture.url), ("caption", .ofOption picture.caption)]

end Picture

namespace Pause

def read (fields : Fields) : Checked Pause :=
  Pause.mk <$> withDefault (key "seconds") 0 readFloat fields <*>
    withDefault Field.showTyping false readBool fields

def fields (spelling : Spelling) (pause : Pause) : Fields :=
  [("seconds", .float pause.seconds), (spelling.name Field.showTyping, .bool pause.showTyping)]

end Pause

namespace CardContent

def kind : CardContent → CardKind
  | .text .. => .text
  | .image .. => .image
  | .gallery .. => .gallery
  | .quickReply .. => .quickReply
  | .userInput .. => .userInput
  | .delay .. => .delay
  | .goToBlock .. => .goToBlock

def read (kind : CardKind) (fields : Fields) : Checked CardContent :=
  match kind with
  | .text => .text <$> textField (key "text") fields
  | .image => .image <$> Picture.read fields
  | .gallery => .gallery <$> Gallery.read fields
  | .quickReply =>
    .quickReply <$> textField (key "text") fields <*>
      withDefault (key "buttons") [] (readList BlockReply.read) fields
  | .userInput =>
    .userInput <$> textField (key "prompt") fields <*> required Field.variableName readText fields <*>
      textField? Field.nextBlockId fields
  | .delay => .delay <$> Pause.read fields
  | .goToBlock => .goToBlock <$> required Field.blockId readText fields

def fields (spelling : Spelling) : CardContent → Fields
  | .text body => [("text", .str body)]
  | .image shown => shown.fields spelling
  | .gallery shown => shown.fields spelling
  | .quickReply body buttons =>
    [("text", .str body), ("buttons", .arr (buttons.map (·.toJson spelling)))]
  | .userInput prompt variableName nextBlockId =>
    [("prompt", .str prompt), (spelling.name Field.variableName, .str variableName),
      (spelling.name Field.nextBlockId, .ofOption nextBlockId)]
  | .delay pause => pause.fields spelling
  | .goToBlock blockId => [(spelling.name Field.blockId, .str blockId)]

end CardContent

namespace Card

def readKind (kind : CardKind) (fields : Fields) : Checked Card :=
  (fun _ id content => Card.mk id content) <$>
    withDefault (key "type") () (readTag kind.name) fields <*> textField? (key "id") fields <*>
    CardContent.read kind fields

def read : Json → Checked Card :=
  readTagged fun tag => (CardKind.ofName? tag).map readKind

def kind (card : Card) : CardKind := card.content.kind

def toJson (spelling : Spelling) (card : Card) : Json :=
  .obj (("type", .str card.kind.name) :: ("id", .ofOption card.id) :: card.content.fields spelling)

end Card

end Parley
