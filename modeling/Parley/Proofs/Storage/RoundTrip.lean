import Parley.Store.Sql

/-!
Rows that hold what was written into them: blocks and flows are read from the JSON of a row as they
were when they were saved.
-/

namespace Parley

open Schema

namespace Schema

variable {α : Type} {key : Key} {fields : Fields} {name : String} {json : Json} {value : α}

/-! ### Fields -/

theorem readText_str (text : String) : readText (.str text) = .valid text := rfl

theorem requiredText_of_pick (text : String) (picked : pick key fields = some (name, .str text)) :
    required key readText fields = .valid text := by
  rw [required, picked]
  rfl

theorem withDefault_of_pick {read : Json → Checked α} {default : α}
    (picked : pick key fields = some (name, json)) (reads : read json = .valid value) :
    withDefault key default read fields = .valid value := by
  rw [withDefault, picked]
  dsimp only
  rw [reads, Checked.under_valid]

theorem textField?_of_pick (text : Option String)
    (picked : pick key fields = some (name, .ofOption text)) :
    textField? key fields = .valid text := by
  apply withDefault_of_pick picked
  cases text <;> rfl

theorem textField_of_pick (text : String) (picked : pick key fields = some (name, .str text)) :
    textField key fields = .valid text := withDefault_of_pick picked rfl

/-! ### Lists -/

theorem readItems_map {read : Json → Checked α} {write : α → Json}
    (reads : ∀ value, read (write value) = .valid value) (position : Nat) (values : List α) :
    readItems read position (values.map write) = .valid values := by
  induction values generalizing position with
  | nil => rfl
  | cons value rest ih =>
    rw [List.map_cons, readItems, reads, ih, Checked.under_valid]
    rfl

theorem readList_map {read : Json → Checked α} {write : α → Json}
    (reads : ∀ value, read (write value) = .valid value) (values : List α) :
    readList read (.arr (values.map write)) = .valid values := readItems_map reads 0 values

theorem readAuthoredList_map {read : Json → Checked α} {write : α → Json}
    (reads : ∀ value, read (write value) = .valid value) (values : List α) :
    readAuthoredList read (.arr (values.map write)) = .valid values := readItems_map reads 0 values

end Schema

/-! ### Parts of messages -/

theorem CardButton.read_toJson (button : CardButton) :
    CardButton.read (button.toJson .authored) = .valid button := by
  have kind : readLiteral ButtonKind.ofName? (.str button.kind.name) = .valid button.kind := by
    cases button.kind <;> rfl
  rw [CardButton.toJson, CardButton.read, record, textField?_of_pick button.id rfl,
    requiredText_of_pick button.title rfl, withDefault_of_pick rfl kind,
    textField?_of_pick button.payload rfl, textField?_of_pick button.url rfl,
    textField?_of_pick button.blockId rfl]
  rfl

theorem BlockReply.read_toJson (reply : BlockReply) :
    BlockReply.read (reply.toJson .authored) = .valid reply := by
  rw [BlockReply.toJson, BlockReply.read, record, textField?_of_pick reply.id rfl,
    requiredText_of_pick reply.title rfl, textField?_of_pick reply.blockId rfl]
  rfl

theorem FlowReply.read_toJson (reply : FlowReply) :
    FlowReply.read reply.toJson = .valid reply := by
  rw [FlowReply.toJson, FlowReply.read, record, textField?_of_pick reply.id rfl,
    requiredText_of_pick reply.title rfl, textField_of_pick reply.payload rfl]
  rfl

theorem Gallery.read_of_picks {fields : Fields} (gallery : Gallery)
    (title : pick (key "title") fields = some ("title", .str gallery.title))
    (subtitle : pick (key "subtitle") fields = some ("subtitle", .ofOption gallery.subtitle))
    (imageUrl : pick Field.imageUrl fields = some ("imageUrl", .ofOption gallery.imageUrl))
    (buttons : pick (key "buttons") fields =
      some ("buttons", .arr (gallery.buttons.map (·.toJson .authored)))) :
    Gallery.read fields = .valid gallery := by
  have read := readList_map CardButton.read_toJson gallery.buttons
  rw [Gallery.read, textField_of_pick gallery.title title, textField?_of_pick gallery.subtitle subtitle,
    textField?_of_pick gallery.imageUrl imageUrl, withDefault_of_pick buttons read]
  rfl

theorem Picture.read_of_picks {fields : Fields} (picture : Picture)
    (url : pick Field.imageUrl fields = some ("imageUrl", .str picture.url))
    (caption : pick (key "caption") fields = some ("caption", .ofOption picture.caption)) :
    Picture.read fields = .valid picture := by
  rw [Picture.read, textField_of_pick picture.url url, textField?_of_pick picture.caption caption]
  rfl

theorem Pause.read_of_picks {fields : Fields} (pause : Pause)
    (seconds : pick (key "seconds") fields = some ("seconds", .float pause.seconds))
    (showTyping : pick Field.showTyping fields = some ("showTyping", .bool pause.showTyping)) :
    Pause.read fields = .valid pause := by
  have readSeconds : readFloat (.float pause.seconds) = .valid pause.seconds := rfl
  have readShow : readBool (.bool pause.showTyping) = .valid pause.showTyping := rfl
  rw [Pause.read, withDefault_of_pick seconds readSeconds, withDefault_of_pick showTyping readShow]
  rfl

/-! ### Cards -/

theorem CardContent.read_fields (kind id : Json) (content : CardContent) :
    CardContent.read content.kind (("type", kind) :: ("id", id) :: content.fields .authored) =
      .valid content := by
  cases content with
  | text body =>
    rw [CardContent.kind, CardContent.read, textField_of_pick body rfl]
    rfl
  | image picture =>
    rw [CardContent.kind, CardContent.read, Picture.read_of_picks picture rfl rfl]
    rfl
  | gallery gallery =>
    rw [CardContent.kind, CardContent.read, Gallery.read_of_picks gallery rfl rfl rfl rfl]
    rfl
  | quickReply body buttons =>
    have read := readList_map BlockReply.read_toJson buttons
    rw [CardContent.kind, CardContent.read, textField_of_pick body rfl,
      withDefault_of_pick rfl read]
    rfl
  | userInput prompt variableName nextBlockId =>
    rw [CardContent.kind, CardContent.read, textField_of_pick prompt rfl,
      requiredText_of_pick variableName rfl, textField?_of_pick nextBlockId rfl]
    rfl
  | delay pause =>
    rw [CardContent.kind, CardContent.read, Pause.read_of_picks pause rfl rfl]
    rfl
  | goToBlock blockId =>
    rw [CardContent.kind, CardContent.read, requiredText_of_pick blockId rfl]
    rfl

theorem CardKind.ofName?_name (kind : CardKind) : CardKind.ofName? kind.name = some kind := by
  cases kind <;> rfl

theorem Schema.readTag_self (tag : String) : readTag tag (.str tag) = .valid () := by
  rw [readTag, readLiteral, if_pos rfl]

theorem Card.read_toJson (card : Card) : Card.read (card.toJson .authored) = .valid card := by
  have tag : Json.lookup "type" (("type", Json.str card.kind.name) :: ("id", .ofOption card.id) ::
      card.content.fields .authored) = some (.str card.kind.name) := rfl
  have content : CardContent.read card.kind _ = .valid card.content :=
    card.content.read_fields (.str card.kind.name) (.ofOption card.id)
  rw [Card.toJson, Card.read, readTagged, tag]
  dsimp only
  rw [CardKind.ofName?_name, Option.map_some]
  dsimp only
  rw [Card.readKind, withDefault_of_pick rfl (readTag_self card.kind.name),
    textField?_of_pick card.id rfl, content]
  rfl

/-! ### Nodes and edges -/

theorem NodeContent.read_fields (id label kind : Json) (content : NodeContent) :
    NodeContent.read content.kind
      (("id", id) :: ("label", label) :: ("type", kind) :: content.fields .authored) =
        .valid content := by
  cases content with
  | start => rfl
  | text message =>
    rw [NodeContent.kind, NodeContent.read, textField_of_pick message rfl]
    rfl
  | image picture =>
    rw [NodeContent.kind, NodeContent.read, Picture.read_of_picks picture rfl rfl]
    rfl
  | card gallery =>
    rw [NodeContent.kind, NodeContent.read,
      Gallery.read_of_picks gallery rfl rfl rfl rfl]
    rfl
  | quickReply message buttons =>
    have read := readList_map FlowReply.read_toJson buttons
    rw [NodeContent.kind, NodeContent.read, textField_of_pick message rfl,
      withDefault_of_pick rfl read]
    rfl
  | userInput prompt variableName =>
    rw [NodeContent.kind, NodeContent.read, textField_of_pick prompt rfl,
      textField_of_pick variableName rfl]
    rfl
  | condition tested =>
    rw [NodeContent.kind, NodeContent.read, Condition.read,
      textField?_of_pick tested.variableName rfl,
      textField?_of_pick tested.operator rfl,
      textField?_of_pick tested.value rfl]
    rfl
  | delay pause =>
    rw [NodeContent.kind, NodeContent.read, Pause.read_of_picks pause rfl rfl]
    rfl
  | finish => rfl

theorem NodeKind.ofName?_name (kind : NodeKind) : NodeKind.ofName? kind.name = some kind := by
  cases kind <;> rfl

theorem NodeContent.flatten_fields (id label kind : Json) (content : NodeContent) :
    Node.flatten (("id", id) :: ("label", label) :: ("type", kind) :: content.fields .authored) =
      ("id", id) :: ("label", label) :: ("type", kind) :: content.fields .authored := by
  cases content <;> rfl

theorem Node.read_toJson (node : Node) : Node.read (node.toJson .authored) = .valid node := by
  have tag : Json.lookup "type" (("id", Json.str node.id) :: ("label", .str node.label) ::
      ("type", .str node.kind.name) :: node.content.fields .authored) =
        some (.str node.kind.name) := rfl
  have flat := node.content.flatten_fields (.str node.id) (.str node.label) (.str node.kind.name)
  have content : NodeContent.read node.kind _ = .valid node.content :=
    node.content.read_fields (.str node.id) (.str node.label) (.str node.kind.name)
  rw [Node.toJson, Node.read, readTagged, tag]
  dsimp only
  rw [NodeKind.ofName?_name, Option.map_some]
  dsimp only
  rw [Node.readKind, flat, requiredText_of_pick node.id rfl,
    textField_of_pick node.label rfl,
    withDefault_of_pick rfl (readTag_self node.kind.name), content]
  rfl

theorem Edge.read_toJson (edge : Edge) : Edge.read (edge.toJson .authored) = .valid edge := by
  rw [Edge.toJson, Edge.read, record, textField?_of_pick edge.id rfl,
    requiredText_of_pick edge.source rfl, requiredText_of_pick edge.target rfl,
    textField?_of_pick edge.sourceHandle rfl,
    textField?_of_pick edge.targetHandle rfl]
  rfl

/-! ### Rows -/

theorem BlockRow.toBlock_write (block : Block) (row : BlockRow) :
    (row.write block).toBlock = .ok { block with
      id := row.id, botId := row.botId, createdAt := row.createdAt } := by
  have cards := readAuthoredList_map Card.read_toJson block.cards
  have triggers := readAuthoredList_map readText_str block.triggers
  rw [BlockRow.toBlock, BlockRow.check, BlockRow.write, cards, triggers]
  rfl

theorem FlowRow.toFlow_write (flow : Flow) (row : FlowRow) :
    (row.write flow).toFlow = .ok { flow with
      id := row.id, botId := row.botId, createdAt := row.createdAt } := by
  have nodes := readAuthoredList_map Node.read_toJson flow.nodes
  have edges := readAuthoredList_map Edge.read_toJson flow.edges
  have triggers := readAuthoredList_map readText_str flow.triggers
  rw [FlowRow.toFlow, FlowRow.check, FlowRow.write, nodes, edges, triggers]
  rfl

end Parley
