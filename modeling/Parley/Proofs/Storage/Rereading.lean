import Parley.Json.Access
import Parley.Proofs.Storage.Listings
import Parley.Proofs.Storage.Saving
import Parley.Proofs.Time.Calendar

/-!
What was written is read again: a block or a flow from its JSON, from a record of its own and from the
database, and a node of the editor with its fields in either place.
-/

namespace Parley

open Schema

/-! ### Fields in another order -/

namespace Json

theorem lookup_append (name : String) (fields more : Fields) :
    lookup name (fields ++ more) = (lookup name fields).or (lookup name more) := by
  induction fields with
  | nil => rfl
  | cons field rest ih =>
    obtain ⟨key, value⟩ := field
    by_cases same : key = name <;> simp [lookup, same, ih]

theorem lookup_filter (keeps : String → Bool) (name : String) (fields : Fields) :
    lookup name (fields.filter fun field => keeps field.1) =
      if keeps name then lookup name fields else none := by
  induction fields with
  | nil => simp [lookup]
  | cons field rest ih =>
    obtain ⟨key, value⟩ := field
    rw [List.filter_cons]
    by_cases same : key = name
    · subst same
      cases kept : keeps key <;> simp [lookup, ih, kept]
    · cases keeps key <;> simp [lookup, ih, same]

theorem lookup_putNew (name key : String) (value : Json) (fields : Fields) :
    lookup name (putNew key value fields) =
      (lookup name fields).or (if key = name then some value else none) := by
  rw [putNew]
  split
  · rename_i old held
    by_cases same : key = name
    · subst same
      rw [held]
      rfl
    · rw [if_neg same, Option.or_none]
  · rw [lookup_append]
    rfl

theorem lookup_foldl_putNew (name : String) (own fields : Fields) :
    lookup name (own.foldl (fun merged (name, value) => putNew name value merged) fields) =
      (lookup name fields).or (lookup name own) := by
  induction own generalizing fields with
  | nil => simp [lookup]
  | cons field rest ih =>
    obtain ⟨key, value⟩ := field
    rw [List.foldl_cons, ih, lookup_putNew, Option.or_assoc]
    by_cases same : key = name <;> simp [lookup, same]

end Json

/-- Fields that tell the same, but for where the editor shows a node. -/
def Schema.AgreeBesidesPosition (fields other : Fields) : Prop :=
  ∀ name, name ≠ "position" → Json.lookup name fields = Json.lookup name other

theorem Schema.AgreeBesidesPosition.pick {fields other : Fields}
    (agree : AgreeBesidesPosition fields other) (key : Key) (authored : key.authored ≠ "position")
    (stored : key.stored ≠ "position") : pick key fields = pick key other := by
  rw [Schema.pick, Schema.pick, agree _ authored, agree _ stored]

theorem NodeContent.read_congr {fields other : Fields} (agree : AgreeBesidesPosition fields other)
    (kind : NodeKind) : NodeContent.read kind fields = NodeContent.read kind other := by
  cases kind <;>
    simp (disch := decide) only [NodeContent.read, Picture.read, Gallery.read, Pause.read,
      Condition.read, textField, textField?, withDefault, agree.pick]

theorem Node.readKind_congr {fields other : Fields}
    (agree : AgreeBesidesPosition (flatten fields) (flatten other)) (kind : NodeKind) :
    readKind kind fields = readKind kind other := by
  simp (disch := decide) only [readKind, textField, withDefault, required, agree.pick,
    NodeContent.read_congr agree]

theorem Node.read_flat {node own : Fields} (held : Json.lookup "data" node = some (.obj own))
    (typed : Json.lookup "type" node ≠ none) (plain : Json.lookup "data" own = none) :
    Node.read (.obj node) = Node.read (.obj (node.filter (·.1 ≠ "data") ++ own)) := by
  have beside (name : String) : Json.lookup name (node.filter (·.1 ≠ "data") ++ own) =
      (if name ≠ "data" then Json.lookup name node else none).or (Json.lookup name own) := by
    rw [Json.lookup_append, Json.lookup_filter (fun key => decide (key ≠ "data"))]
    simp only [decide_eq_true_eq]
  have under (name : String) : Json.lookup name (flatten node) =
      (if name ≠ "data" ∧ name ≠ "position" then Json.lookup name node else none).or
        (Json.lookup name own) := by
    rw [flatten, held]
    dsimp only
    rw [Json.lookup_foldl_putNew,
      Json.lookup_filter (fun key => key ≠ "data" && key ≠ "position")]
    simp only [Bool.and_eq_true, decide_eq_true_eq]
  have flat : flatten (node.filter (·.1 ≠ "data") ++ own) = node.filter (·.1 ≠ "data") ++ own := by
    rw [flatten, beside, if_neg (by decide), plain]
    rfl
  -- only a node with `data` loses its position when its fields are put together
  have agree : AgreeBesidesPosition (flatten node) (flatten (node.filter (·.1 ≠ "data") ++ own)) := by
    intro name other
    rw [flat, under, beside]
    simp only [other, ne_eq, not_false_eq_true, and_true]
  have tag : Json.lookup "type" (node.filter (·.1 ≠ "data") ++ own) = Json.lookup "type" node := by
    obtain ⟨value, held⟩ := Option.ne_none_iff_exists'.mp typed
    rw [beside, if_pos (by decide), held, Option.some_or]
  rw [Node.read, readTagged, readTagged, tag]
  cases Json.lookup "type" node with
  | none => rfl
  | some value =>
    cases value with
    | str name =>
      dsimp only
      cases NodeKind.ofName? name with
      | none => rfl
      | some kind =>
        rw [Option.map_some]
        dsimp only
        rw [Node.readKind_congr agree]
    | _ => rfl

/-! ### Blocks and flows -/

theorem Schema.readBool_bool (value : Bool) : readBool (.bool value) = .valid value := rfl

namespace Block

def dump (block : Block) : Json :=
  .obj ((block.toJson .authored).fields ++ [("createdAt", .str block.createdAt.print)])

theorem read_fields (block : Block) (more : Fields) (freshId : String) (now : Timestamp) :
    Block.read freshId now (.obj ((block.toJson .authored).fields ++ more)) =
      (fun created => { block with createdAt := created }) <$>
        withDefault Field.createdAt now readTimestamp more := by
  have cards := readAuthoredList_map Card.read_toJson block.cards
  have triggers := readAuthoredList_map readText_str block.triggers
  have created : withDefault Field.createdAt now readTimestamp
      ((block.toJson .authored).fields ++ more) =
        withDefault Field.createdAt now readTimestamp more := by
    have same : pick Field.createdAt ((block.toJson .authored).fields ++ more) =
      pick Field.createdAt more := rfl
    rw [withDefault, withDefault, same]
  rw [Block.read, record, withDefault_of_pick rfl (readText_str block.id),
    textField_of_pick block.botId rfl, textField_of_pick block.name rfl,
    textField?_of_pick block.groupName rfl, withDefault_of_pick rfl cards,
    withDefault_of_pick rfl triggers, withDefault_of_pick rfl (readBool_bool block.isWelcome),
    withDefault_of_pick rfl (readBool_bool block.isDefaultAnswer),
    withDefault_of_pick rfl (readBool_bool block.isEnabled), created]
  cases withDefault Field.createdAt now readTimestamp more <;> rfl

theorem read_toJson (block : Block) (freshId : String) (now : Timestamp) :
    Block.read freshId now (block.toJson .authored) = .valid { block with createdAt := now } :=
  block.read_fields [] freshId now

theorem read_dump {block : Block} (dated : block.createdAt.Dated) (freshId : String)
    (now : Timestamp) : Block.read freshId now block.dump = .valid block := by
  rw [dump, read_fields, withDefault_of_pick rfl (readTimestamp_print dated)]
  rfl

end Block

namespace Flow

def dump (flow : Flow) : Json :=
  .obj ((flow.toJson .authored).fields ++ [("createdAt", .str flow.createdAt.print)])

theorem read_fields (flow : Flow) (more : Fields) (freshId : String) (now : Timestamp) :
    Flow.read freshId now (.obj ((flow.toJson .authored).fields ++ more)) =
      (fun created => { flow with createdAt := created }) <$>
        withDefault Field.createdAt now readTimestamp more := by
  have nodes := readAuthoredList_map Node.read_toJson flow.nodes
  have edges := readAuthoredList_map Edge.read_toJson flow.edges
  have triggers := readAuthoredList_map readText_str flow.triggers
  have created : withDefault Field.createdAt now readTimestamp
      ((flow.toJson .authored).fields ++ more) =
        withDefault Field.createdAt now readTimestamp more := by
    have same : pick Field.createdAt ((flow.toJson .authored).fields ++ more) =
      pick Field.createdAt more := rfl
    rw [withDefault, withDefault, same]
  rw [Flow.read, record, withDefault_of_pick rfl (readText_str flow.id),
    textField_of_pick flow.botId rfl, textField_of_pick flow.name rfl,
    withDefault_of_pick rfl nodes, withDefault_of_pick rfl edges,
    withDefault_of_pick rfl triggers, withDefault_of_pick rfl (readBool_bool flow.isDefault),
    withDefault_of_pick rfl (readBool_bool flow.isActive), created]
  cases withDefault Field.createdAt now readTimestamp more <;> rfl

theorem read_toJson (flow : Flow) (freshId : String) (now : Timestamp) :
    Flow.read freshId now (flow.toJson .authored) = .valid { flow with createdAt := now } :=
  flow.read_fields [] freshId now

theorem read_dump {flow : Flow} (dated : flow.createdAt.Dated) (freshId : String)
    (now : Timestamp) : Flow.read freshId now flow.dump = .valid flow := by
  rw [dump, read_fields, withDefault_of_pick rfl (readTimestamp_print dated)]
  rfl

end Flow

/-! ### Saving -/

namespace Content

def seqs : Content → Sql → List Cell
  | .block given, sql => (sql.blocks.filter (·.botId = given.botId)).map (·.seq)
  | .flow given, sql => (sql.flows.filter (·.botId = given.botId)).map (·.seq)

/-- Content is saved into its row; where it has none, it can be refused only for want of a number. -/
theorem save_sql (content : Content) {storage : Storage} {sql : Sql} (works : storage.Works)
    (holds : storage.store = .sql sql) :
    (∃ reached, outcome content.save storage = (.ok (), reached)) ∨
      content.owner? storage.store = none ∧
        ∃ failure, Sql.nextSeq (content.seqs sql) = .error failure ∧
          outcome content.save storage = (.error failure, storage) := by
  cases content with
  | block given =>
    have taken : sql.blocks.any (·.id = given.id) =
        (owner? (.block given) (.sql sql)).isSome := by
      rw [owner?, Option.isSome_map, List.isSome_find?]
    rw [save, Storage.saveBlock, Storage.outcome_write, works.refuses, holds,
      if_neg Bool.false_ne_true, Storage.written, Sql.saveBlock_eq, taken, seqs]
    cases owner? (.block given) (.sql sql) with
    | some owner => exact .inl ⟨_, rfl⟩
    | none =>
      cases next : Sql.nextSeq ((sql.blocks.filter (·.botId = given.botId)).map (·.seq)) with
      | ok seq => exact .inl ⟨_, rfl⟩
      | error failure => exact .inr ⟨rfl, failure, rfl, rfl⟩
  | flow given =>
    have taken : sql.flows.any (·.id = given.id) =
        (owner? (.flow given) (.sql sql)).isSome := by
      rw [owner?, Option.isSome_map, List.isSome_find?]
    rw [save, Storage.saveFlow, Storage.outcome_write, works.refuses, holds,
      if_neg Bool.false_ne_true, Storage.written, Sql.saveFlow_eq, taken, seqs]
    cases owner? (.flow given) (.sql sql) with
    | some owner => exact .inl ⟨_, rfl⟩
    | none =>
      cases next : Sql.nextSeq ((sql.flows.filter (·.botId = given.botId)).map (·.seq)) with
      | ok seq => exact .inl ⟨_, rfl⟩
      | error failure => exact .inr ⟨rfl, failure, rfl, rfl⟩

/-- A bot whose rows are numbered by integers has a number for one row more, up to the largest. -/
theorem exists_unnumbered {content : Content} {sql : Sql} {failure : Failure}
    (refused : Sql.nextSeq (content.seqs sql) = .error failure) :
    ∃ seq ∈ content.seqs sql, ¬ seq.Whole (Nat.pow 2 63 - 1) := by
  by_contra none
  push Not at none
  obtain ⟨next, numbered, _⟩ := Sql.nextSeq_above (by decide) (by decide) none
  cases refused.symm.trans numbered

end Content

/-- Content is read back as it was: a block or a flow from its JSON, with the time of its creation if
that is written beside it, and from the database into which it was saved, unless a new row cannot be
numbered. The fields of a node of the editor are read the same under `data` and beside its id. -/
theorem content_is_read_back :
    (∀ (block : Block) (freshId : String) (now : Timestamp),
      Block.read freshId now (block.toJson .authored) = .valid { block with createdAt := now } ∧
        (block.createdAt.Dated → Block.read freshId now block.dump = .valid block)) ∧
    (∀ (flow : Flow) (freshId : String) (now : Timestamp),
      Flow.read freshId now (flow.toJson .authored) = .valid { flow with createdAt := now } ∧
        (flow.createdAt.Dated → Flow.read freshId now flow.dump = .valid flow)) ∧
    (∀ (content : Content) (storage : Storage) (sql : Sql), storage.Works →
      storage.store = .sql sql →
      (∀ owner, content.owner? storage.store = some owner → owner = content.botId) →
      (∃ reached, outcome content.save storage = (.ok (), reached) ∧ content.Found reached) ∨
        content.owner? storage.store = none ∧
          (∃ seq ∈ content.seqs sql, ¬ seq.Whole (Nat.pow 2 63 - 1)) ∧
          ∃ failure, outcome content.save storage = (.error failure, storage)) ∧
    ∀ node own : Fields, Json.lookup "data" node = some (.obj own) →
      Json.lookup "type" node ≠ none → Json.lookup "data" own = none →
      Node.read (.obj node) = Node.read (.obj (node.filter (·.1 ≠ "data") ++ own)) := by
  refine ⟨fun block freshId now => ⟨block.read_toJson freshId now, (Block.read_dump · freshId now)⟩,
    fun flow freshId now => ⟨flow.read_toJson freshId now, (Flow.read_dump · freshId now)⟩, ?_,
    fun node own held typed plain => Node.read_flat held typed plain⟩
  intro content storage sql works holds owned
  rcases content.save_sql works holds with ⟨reached, saved⟩ | ⟨new, failure, refused, answered⟩
  · have saves := content.save_saves storage
    rw [saved] at saves
    exact .inl ⟨reached, saved, saves.found works.whole owned⟩
  · exact .inr ⟨new, Content.exists_unnumbered refused, failure, answered⟩

def emptyRows : Storage where
  store := .sql {}
  source := { micros := 0 }

def tour : Flow where
  id := "tour"
  botId := "bot-1"
  nodes := [⟨"ask", "Ask", .quickReply "Ready?" [{ title := "Yes" }]⟩,
    ⟨"wait", "", .delay { seconds := 1 }⟩]
  edges := [{ source := "ask", target := "wait", sourceHandle := some "true" }]
  triggers := ["tour"]
  createdAt := ⟨1709210096789000, some (-90)⟩

def askAtEditor : Fields :=
  [("id", .str "ask"), ("type", .str "text"), ("position", .obj [("x", .int 4)]),
    ("data", .obj [("message", .str "Ready?")])]

/-- A flow of 29 February 2024 is read back, and found after it was saved. -/
theorem tour_is_read_back :
    tour.createdAt.Dated ∧ Flow.read "" ⟨0, none⟩ tour.dump = .valid tour ∧
    (∃ reached, outcome (Content.save (.flow tour)) emptyRows = (.ok (), reached) ∧
      (Content.flow tour).Found reached) ∧
    Node.read (.obj askAtEditor) = .valid ⟨"ask", "", .text "Ready?"⟩ ∧
    Node.read (.obj askAtEditor) =
      Node.read (.obj (askAtEditor.filter (·.1 ≠ "data") ++ [("message", .str "Ready?")])) := by
  obtain ⟨_, flows, saving, nodes⟩ := content_is_read_back
  have dated : tour.createdAt.Dated := ⟨by decide, by decide, by decide⟩
  refine ⟨dated, (flows tour "" ⟨0, none⟩).2 dated, ?_, rfl, ?_⟩
  · have saved := saving (.flow tour) emptyRows {} ⟨rfl, rfl⟩ rfl (fun owner taken => by cases taken)
    refine saved.resolve_right ?_
    rintro ⟨-, ⟨seq, member, -⟩, -⟩
    exact absurd member List.not_mem_nil
  · exact nodes askAtEditor [("message", .str "Ready?")] rfl (by decide) rfl

end Parley
