import Mathlib
import Parley.Proofs.Storage.Mirrors
import Parley.Proofs.Turn.Opening

/-!
The two stores, asked the same: a store in memory and one in a database give the same answers to any
requests, up to ids and times that they make up, as long as no id is given to two owners and what is
to be kept fits into the columns of the database.
-/

namespace Parley

open Storage (onMemory onSql)

/-! ### Answers side by side -/

/-- Both stores answer a request alike, and the database still holds what is in memory. -/
def AnsweredAlike (past : List Operation) (operation : Operation) (storage other : Storage) : Prop :=
  ∃ said said' memory sql next next',
    outcome operation.ask storage = (.ok said, onMemory memory next) ∧
    outcome operation.ask other = (.ok said', onSql sql next') ∧
    said.undated = said'.undated ∧ Mirrors (past ++ [operation]) memory sql

section

variable {past : List Operation} {memory : Memory} {sql : Sql} {operation : Operation}

theorem Mirrors.saveSession_alike (mirrors : Mirrors past memory sql) {session : Session}
    (fits : Cell.isLong session.currentCardIndex = false)
    (agree : ∀ earlier ∈ past, earlier.Agrees (.saveSession session)) (source source' : Source) :
    AnsweredAlike past (.saveSession session) (onMemory memory source) (onSql sql source') := by
  obtain ⟨written, saved, mirrored⟩ := mirrors.saveSession fits agree
  exact ⟨_, _, _, _, _, _, rfl, outcome_map_ok (Storage.saveSession_onSql saved) _, rfl, mirrored⟩

theorem Mirrors.getSession_alike (mirrors : Mirrors past memory sql) (botId senderId : String)
    (source source' : Source) :
    AnsweredAlike past (.getSession botId senderId) (onMemory memory source)
      (onSql sql source') := by
  have rows := mirrors.sessionRow? botId senderId
  have read : outcome (Storage.getSession botId senderId) (onSql sql source') =
      (.ok (memory.session? botId senderId), onSql sql source') := by
    cases found : memory.session? botId senderId with
    | none =>
      rw [found] at rows
      exact Storage.getSession_onSql_of_none rows
    | some session =>
      rw [found] at rows
      exact Storage.getSession_onSql rows session.toRow_toSession
  exact ⟨_, _, _, _, _, _, rfl, outcome_map_ok read _, rfl, mirrors.later _⟩

theorem Mirrors.upsertContact_alike (mirrors : Mirrors past memory sql) (botId senderId : String)
    (profile : Storage.Profile) (source source' : Source) :
    AnsweredAlike past (.upsertContact botId senderId profile) (onMemory memory source)
      (onSql sql source') := by
  rcases Table.found_cases (mirrors.contact? botId senderId) with
    ⟨miss, miss'⟩ | ⟨row, contact, hit, hit', same⟩
  · have met : (Storage.firstContact botId senderId profile source').undated =
        (Storage.firstContact botId senderId profile source).undated := by
      simp only [Contact.undated, Storage.firstContact]
    exact ⟨_, _, _, _, _, _, outcome_map_ok (Storage.meet_onMemory miss' profile) _,
      outcome_map_ok (Storage.meet_onSql miss profile) _,
      congrArg (StoreAnswer.contact ∘ some) met.symm, (mirrors.insertContact met miss').later _⟩
  · have visited := Contact.visit_undated same (Source.now.run source').1 (Source.now.run source).1
      profile.name profile.picture
    have owned := List.find?_some hit'
    simp only [Contact.isOf, Bool.and_eq_true, decide_eq_true_eq] at owned
    have known : (memory.contact? contact.botId contact.senderId).isSome := by
      rw [owned.1, owned.2, hit']
      rfl
    exact ⟨_, _, _, _, _, _, outcome_map_ok (Storage.visit_onMemory hit' profile) _,
      outcome_map_ok (Storage.visit_onSql hit profile) _,
      congrArg (StoreAnswer.contact ∘ some) visited.symm,
      (mirrors.updateContact visited known).later _⟩

theorem Mirrors.answered (mirrors : Mirrors past memory sql) (fits : operation.Fits)
    (agree : ∀ earlier ∈ past, earlier.Agrees operation) (few : past.length + 1 < Nat.pow 2 63)
    (source source' : Source) :
    AnsweredAlike past operation (onMemory memory source) (onSql sql source') := by
  cases operation with
  | saveBot bot =>
    obtain ⟨next, saved⟩ := Storage.saveBot_onSql bot sql source'
    exact ⟨_, _, _, _, _, _, rfl, outcome_bind_of_ok saved _, rfl, (mirrors.saveBot bot).later _⟩
  | getBot botId =>
    have same : sql.bot? botId = memory.bot? botId := by
      rw [Sql.bot?, mirrors.bots]
      rfl
    exact ⟨_, _, _, _, _, _, rfl, rfl, congrArg StoreAnswer.bot same.symm, mirrors.later _⟩
  | saveSession session => exact mirrors.saveSession_alike fits agree source source'
  | getSession botId senderId => exact mirrors.getSession_alike botId senderId source source'
  | saveBlock block =>
    obtain ⟨written, saved, mirrored⟩ := mirrors.saveBlock agree few
    exact ⟨_, _, _, _, _, _, rfl, outcome_bind_of_ok (Storage.saveBlock_onSql saved) _, rfl,
      mirrored⟩
  | getBlock botId blockId =>
    obtain ⟨found, read, same⟩ := mirrors.block? botId blockId
    exact ⟨_, _, _, _, _, _, rfl, outcome_map_ok (Storage.getBlock_onSql read) _,
      congrArg StoreAnswer.block same.symm, mirrors.later _⟩
  | listBlocks botId enabledOnly =>
    have same := mirrors.listBlocks botId enabledOnly
    exact ⟨_, _, _, _, _, _, rfl, rfl, congrArg StoreAnswer.blocks same.symm, mirrors.later _⟩
  | findFlagged botId flag =>
    have found : outcome (Storage.findFlagged botId flag.name) (onMemory memory source) =
        (.ok (sql.flagged? botId flag.ofRow), onMemory memory source) :=
      Storage.findFlagged_onMemory (mirrors.flagged? botId flag)
    have found' : outcome (Storage.findFlagged botId flag.name) (onSql sql source') =
        (.ok (sql.flagged? botId flag.ofRow), onSql sql source') := by cases flag <;> rfl
    exact ⟨_, _, _, _, _, _, outcome_map_ok found _, outcome_map_ok found' _, rfl,
      mirrors.later _⟩
  | saveFlow flow =>
    obtain ⟨written, saved, mirrored⟩ := mirrors.saveFlow agree few
    exact ⟨_, _, _, _, _, _, rfl, outcome_bind_of_ok (Storage.saveFlow_onSql saved) _, rfl, mirrored⟩
  | getFlow botId flowId =>
    obtain ⟨found, read, same⟩ := mirrors.flow? botId flowId
    exact ⟨_, _, _, _, _, _, rfl, outcome_map_ok (Storage.getFlow_onSql read) _,
      congrArg StoreAnswer.flow same.symm, mirrors.later _⟩
  | listFlows botId activeOnly =>
    have same := mirrors.listFlows botId activeOnly
    exact ⟨_, _, _, _, _, _, rfl, rfl, congrArg StoreAnswer.flows same.symm, mirrors.later _⟩
  | upsertContact botId senderId profile =>
    exact mirrors.upsertContact_alike botId senderId profile source source'
  | getContact botId senderId =>
    have same : (sql.contact? botId senderId).map (·.undated) =
        (memory.contact? botId senderId).map (·.undated) := by
      rcases Table.found_cases (mirrors.contact? botId senderId) with
        ⟨miss, miss'⟩ | ⟨row, contact, hit, hit', same⟩
      · rw [miss, miss']
      · rw [hit, hit', Option.map_some, Option.map_some, same]
    exact ⟨_, _, _, _, _, _, rfl, rfl, congrArg StoreAnswer.contact same.symm, mirrors.later _⟩
  | addEntry entry =>
    obtain ⟨written, added, mirrored⟩ := mirrors.addEntry agree
    exact ⟨_, _, _, _, _, _, rfl, outcome_bind_of_ok (Storage.addEntry_onSql added) _, rfl, mirrored⟩
  | listEntries botId senderId limit =>
    have same := mirrors.listEntries botId senderId fits.1
    exact ⟨_, _, _, _, _, _, rfl, rfl, congrArg StoreAnswer.entries same.symm, mirrors.later _⟩
  | bumpCount botId day direction newUser =>
    obtain ⟨next, counted⟩ := Storage.bumpCount_onSql botId day direction newUser sql source'
    obtain ⟨same, mirrored⟩ := mirrors.bumpCount botId day direction newUser
    exact ⟨_, _, _, _, _, _, rfl, outcome_map_ok counted _,
      congrArg (StoreAnswer.count ∘ some) same.symm, mirrored.later _⟩
  | getCount botId day =>
    have same := mirrors.count? botId day
    exact ⟨_, _, _, _, _, _, rfl, rfl, congrArg StoreAnswer.count same.symm, mirrors.later _⟩

/-- Whatever is asked next, both stores answer it alike. -/
theorem Mirrors.answers (mirrors : Mirrors past memory sql) {rest : List Operation}
    (apart : (past ++ rest).Pairwise Operation.Agrees) (fits : ∀ operation ∈ rest, operation.Fits)
    (few : (past ++ rest).length < 2 ^ 63) (source source' : Source) :
    List.Forall₂ Alike (Storage.answers rest (onMemory memory source))
      (Storage.answers rest (onSql sql source')) := by
  induction rest generalizing past memory sql source source' with
  | nil => exact .nil
  | cons operation rest ih =>
    have agree (earlier : Operation) (asked : earlier ∈ past) : earlier.Agrees operation :=
      (List.pairwise_append.mp apart).2.2 earlier asked operation List.mem_cons_self
    have room : past.length + 1 < Nat.pow 2 63 := by
      rw [List.length_append, List.length_cons] at few
      change _ < 2 ^ 63
      omega
    obtain ⟨said, said', memory', sql', next, next', run, run', same, mirrored⟩ :=
      mirrors.answered (fits operation List.mem_cons_self) agree room source source'
    have split : past ++ operation :: rest = (past ++ [operation]) ++ rest := by simp
    rw [Storage.answers, Storage.answers, run, run']
    refine .cons ⟨said, said', rfl, rfl, same⟩ ?_
    exact ih mirrored (split ▸ apart)
      (fun later member => fits later (List.mem_cons_of_mem _ member)) (split ▸ few) next next'

end

/-- The two stores are interchangeable: asked the same, both answer each time, and alike. -/
theorem stores_answer_alike {operations : List Operation}
    (apart : operations.Pairwise Operation.Agrees)
    (fits : ∀ operation ∈ operations, operation.Fits) (few : operations.length < 2 ^ 63)
    (source source' : Source) :
    List.Forall₂ Alike (Storage.answers operations (onMemory {} source))
      (Storage.answers operations (onSql {} source')) :=
  Mirrors.empty.answers apart fits few source source'

/-- A block that is renamed, a session under two ids and two messages. -/
theorem renamed_block_is_answered_alike :
    let operations : List Operation := [
      .saveBlock { id := "menu", botId := "shop", name := "Menu", createdAt := ⟨0, none⟩ },
      .saveSession { id := "first", botId := "shop", senderId := "ada" },
      .addEntry ⟨"m1", "shop", "ada", "hi", .incoming, "text", ⟨0, none⟩⟩,
      .saveBlock { id := "menu", botId := "shop", name := "Welcome", createdAt := ⟨1, none⟩ },
      .saveSession { id := "second", botId := "shop", senderId := "ada", currentCardIndex := 2 },
      .addEntry ⟨"m2", "shop", "ada", "Hello!", .outgoing, "text", ⟨1, none⟩⟩,
      .listBlocks "shop" true,
      .getSession "shop" "ada",
      .listEntries "shop" none 1]
    operations.Pairwise Operation.Agrees ∧ (∀ operation ∈ operations, operation.Fits) ∧
      operations.length < 2 ^ 63 ∧
      List.Forall₂ Alike (Storage.answers operations (onMemory {} ⟨0, 0⟩))
        (Storage.answers operations (onSql {} ⟨0, 0⟩)) := by
  intro operations
  have apart : operations.Pairwise Operation.Agrees := by
    simp [operations, Operation.Agrees]
  have fits : ∀ operation ∈ operations, operation.Fits := by
    simp [operations, Operation.Fits, Cell.isLong]
  have few : operations.length < 2 ^ 63 := by decide
  exact ⟨apart, fits, few, stores_answer_alike apart fits few ⟨0, 0⟩ ⟨0, 0⟩⟩

/-- What a column drops tells the stores apart: a number that is too long for it, and how far a clock
is ahead. Two hours ahead, noon comes before eleven, but not in a column. -/
theorem columns_tell_stores_apart :
    let session : Session :=
      { id := "s", botId := "shop", senderId := "ada", currentCardIndex := 9223372036854775808 }
    let noonAhead : LogEntry :=
      ⟨"m1", "shop", "ada", "first", .incoming, "text", ⟨43200000000, some 120⟩⟩
    let eleven : LogEntry :=
      ⟨"m2", "shop", "ada", "second", .incoming, "text", ⟨39600000000, some 0⟩⟩
    let save : List Operation := [.saveSession session]
    let log : List Operation := [.addEntry noonAhead, .addEntry eleven, .listEntries "shop" none 2]
    (Storage.answers save (onMemory {} ⟨0, 0⟩) = [.ok (.session (some session))] ∧
      Storage.answers save (onSql {} ⟨0, 0⟩) = [.error (.column .tooLarge)] ∧
      ¬ List.Forall₂ Alike (Storage.answers save (onMemory {} ⟨0, 0⟩))
        (Storage.answers save (onSql {} ⟨0, 0⟩))) ∧
    (Storage.answers log (onMemory {} ⟨0, 0⟩) =
        [.ok .done, .ok .done, .ok (.entries [noonAhead, eleven])] ∧
      Storage.answers log (onSql {} ⟨0, 0⟩) =
        [.ok .done, .ok .done, .ok (.entries [eleven, noonAhead])] ∧
      ¬ List.Forall₂ Alike (Storage.answers log (onMemory {} ⟨0, 0⟩))
        (Storage.answers log (onSql {} ⟨0, 0⟩))) := by
  intro session noonAhead eleven save log
  have saved : Storage.answers save (onMemory {} ⟨0, 0⟩) = [.ok (.session (some session))] := rfl
  have refused : Storage.answers save (onSql {} ⟨0, 0⟩) = [.error (.column .tooLarge)] := rfl
  have added : Storage.answers log (onMemory {} ⟨0, 0⟩) =
      [.ok .done, .ok .done, .ok (.entries [noonAhead, eleven])] := rfl
  have sorted : Storage.answers log (onSql {} ⟨0, 0⟩) =
      [.ok .done, .ok .done, .ok (.entries [eleven, noonAhead])] := by cbv
  refine ⟨⟨saved, refused, ?_⟩, added, sorted, ?_⟩
  · rw [saved, refused]
    intro alike
    cases alike with
    | cons first _ =>
      obtain ⟨_, _, _, said, _⟩ := first
      cases said
  · rw [added, sorted]
    intro alike
    cases alike with
    | cons _ rest =>
      cases rest with
      | cons _ rest =>
        cases rest with
        | cons listed _ =>
          obtain ⟨said, said', told, told', same⟩ := listed
          cases told
          cases told'
          simp [StoreAnswer.undated, noonAhead, eleven] at same

end Parley
