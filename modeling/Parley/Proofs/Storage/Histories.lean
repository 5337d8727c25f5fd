import Mathlib.Data.List.Induction
import Mathlib.Data.List.Nodup
import Parley.Proofs.Storage.Tables

/-!
Tables told by what was stored in them: each record is the latest under its key, and the records stand
in the order in which their keys were stored first. So a search finds the earliest that qualifies.
-/

namespace Parley.Table

variable {α : Type} {key : α → String} {saves table : List α} {record other : α}

/-- The table that is left when records are stored one after the other, each in place of the one with
its key. -/
def stored (key : α → String) (saves : List α) : List α :=
  saves.foldl (fun table record => put (key · = key record) record table) []

theorem stored_snoc (key : α → String) (saves : List α) (record : α) :
    stored key (saves ++ [record]) = put (key · = key record) record (stored key saves) := by
  rw [stored, List.foldl_append]
  rfl

/-! ### Latest records -/

/-- The record is the last one that was stored under its key. -/
def Latest (key : α → String) (saves : List α) (record : α) : Prop :=
  saves.reverse.find? (key · = key record) = some record

theorem latest_snoc :
    Latest key (saves ++ [record]) other ↔
      other = record ∨ key other ≠ key record ∧ Latest key saves other := by
  rw [Latest, List.reverse_append, List.reverse_singleton, List.singleton_append, List.find?_cons]
  by_cases same : key record = key other
  · simp only [same, decide_true, Option.some.injEq, ne_eq, not_true, false_and, or_false]
    exact eq_comm
  · have apart : other ≠ record := fun equal => same (congrArg key equal).symm
    simp only [same, decide_false, apart, ne_eq, Ne.symm same, not_false_eq_true, true_and, false_or,
      Latest]

theorem Latest.mem (latest : Latest key saves record) : record ∈ saves :=
  List.mem_reverse.mp (List.mem_of_find?_eq_some latest)

/-! ### Storing a record -/

theorem keys_put (record : α) (table : List α) :
    (put (key · = key record) record table).map key =
      if key record ∈ table.map key then table.map key else table.map key ++ [key record] := by
  induction table with
  | nil => simp [put]
  | cons first rest ih =>
    by_cases same : key first = key record
    · simp [put, same]
    · have other : key record ∈ key first :: rest.map key ↔ key record ∈ rest.map key := by
        simp [Ne.symm same]
      simp only [put, same, decide_false, Bool.false_eq_true, if_false, List.map_cons, ih, other]
      split <;> rfl

theorem mem_put_iff (apart : (table.map key).Nodup) :
    other ∈ put (key · = key record) record table ↔
      other = record ∨ key other ≠ key record ∧ other ∈ table := by
  induction table with
  | nil => simp [put]
  | cons first rest ih =>
    obtain ⟨fresh, apart⟩ := List.nodup_cons.mp apart
    by_cases same : key first = key record
    · have later : other ∈ rest → key other ≠ key record := by
        intro member equal
        exact fresh (same.trans equal.symm ▸ List.mem_map_of_mem member)
      simp only [put, same, decide_true, if_true, List.mem_cons]
      refine or_congr_right ⟨fun member => ⟨later member, .inr member⟩, ?_⟩
      rintro ⟨differs, rfl | member⟩
      · exact absurd same differs
      · exact member
    · simp only [put, same, decide_false, Bool.false_eq_true, if_false, List.mem_cons, ih apart]
      constructor
      · rintro (rfl | rfl | ⟨differs, member⟩)
        · exact .inr ⟨same, .inl rfl⟩
        · exact .inl rfl
        · exact .inr ⟨differs, .inr member⟩
      · rintro (rfl | ⟨differs, rfl | member⟩)
        · exact .inr (.inl rfl)
        · exact .inl rfl
        · exact .inr (.inr ⟨differs, member⟩)

theorem stored_length_le (key : α → String) (saves : List α) :
    (stored key saves).length ≤ saves.length := by
  induction saves using List.reverseRecOn with
  | nil => exact Nat.le_refl 0
  | append_singleton saves record ih =>
    have keys := congrArg List.length (@keys_put _ key record (stored key saves))
    rw [List.length_map] at keys
    rw [stored_snoc, keys, List.length_append, List.length_singleton]
    split
    · rw [List.length_map]
      exact Nat.le_succ_of_le ih
    · rw [List.length_append, List.length_map, List.length_singleton]
      exact Nat.succ_le_succ ih

/-! ### Order -/

/-- When a key was stored first. -/
def firstSave (key : α → String) (saves : List α) (id : String) : Nat := saves.findIdx (key · = id)

theorem firstSave_lt {id : String} (known : id ∈ saves.map key) :
    firstSave key saves id < saves.length := by
  obtain ⟨old, member, same⟩ := List.mem_map.mp known
  exact List.findIdx_lt_length_of_exists ⟨old, member, decide_eq_true same⟩

theorem firstSave_of_mem {id : String} (known : id ∈ saves.map key) (record : α) :
    firstSave key (saves ++ [record]) id = firstSave key saves id := by
  have before : saves.findIdx (key · = id) < saves.length := firstSave_lt known
  rw [firstSave, List.findIdx_append, if_pos before, firstSave]

theorem firstSave_of_not_mem (fresh : key record ∉ saves.map key) :
    firstSave key (saves ++ [record]) (key record) = saves.length := by
  have missed : saves.findIdx (key · = key record) = saves.length := by
    refine List.findIdx_eq_length.mpr fun old member => decide_eq_false fun same => fresh ?_
    exact same ▸ List.mem_map_of_mem member
  rw [firstSave, List.findIdx_append, missed, if_neg (Nat.lt_irrefl _)]
  simp [List.findIdx_cons]

/-- A table holds the latest record under each key, in the order in which the keys were stored first. -/
structure Tells (key : α → String) (saves table : List α) : Prop where
  mem_iff : ∀ record, record ∈ table ↔ Latest key saves record
  keys : ∀ id, id ∈ table.map key ↔ id ∈ saves.map key
  ordered : (table.map key).Pairwise fun id later => firstSave key saves id < firstSave key saves later

namespace Tells

theorem apart (tells : Tells key saves table) : (table.map key).Nodup := by
  refine tells.ordered.imp fun {id later} before same => ?_
  exact Nat.ne_of_lt before (congrArg (firstSave key saves) same)

theorem put (tells : Tells key saves table) (record : α) :
    Tells key (saves ++ [record]) (put (key · = key record) record table) where
  mem_iff other := by rw [mem_put_iff tells.apart, tells.mem_iff, latest_snoc]
  keys id := by
    rw [keys_put, List.map_append, List.map_singleton, List.mem_append, List.mem_singleton,
      ← tells.keys]
    split
    · rename_i known
      constructor
      · exact .inl
      · rintro (old | rfl)
        · exact old
        · exact known
    · rw [List.mem_append, List.mem_singleton]
  ordered := by
    have known (id : String) (member : id ∈ table.map key) :
        firstSave key (saves ++ [record]) id = firstSave key saves id :=
      firstSave_of_mem ((tells.keys id).mp member) record
    have kept : (table.map key).Pairwise fun id later =>
        firstSave key (saves ++ [record]) id < firstSave key (saves ++ [record]) later :=
      tells.ordered.imp_of_mem fun {id later} member member' before => by
        rwa [known id member, known later member']
    rw [keys_put]
    split
    · exact kept
    · rename_i fresh
      -- a new key stands last, and was stored first only now
      refine List.pairwise_append.mpr ⟨kept, List.pairwise_singleton _ _, fun id member new isNew => ?_⟩
      rw [List.mem_singleton.mp isNew, known id member,
        firstSave_of_not_mem (mt (tells.keys _).mpr fresh)]
      exact firstSave_lt ((tells.keys id).mp member)

end Tells

theorem stored_tells (key : α → String) (saves : List α) : Tells key saves (stored key saves) := by
  induction saves using List.reverseRecOn with
  | nil => exact ⟨fun _ => by simp [stored, Latest], fun _ => Iff.rfl, List.Pairwise.nil⟩
  | append_singleton saves record ih =>
    rw [stored_snoc]
    exact ih.put record

theorem mem_of_mem_stored (held : record ∈ stored key saves) : record ∈ saves :=
  (((stored_tells key saves).mem_iff record).mp held).mem

/-! ### Searching -/

/-- Of the latest records, the one that qualifies and whose key was stored first. -/
structure Earliest (key : α → String) (saves : List α) (qualifies : α → Prop) (record : α) : Prop where
  latest : Latest key saves record
  qualified : qualifies record
  first : ∀ other, Latest key saves other → qualifies other →
    firstSave key saves (key record) ≤ firstSave key saves (key other)

/-- What a search comes to that picks the earliest record, whatever a store leaves of it. -/
inductive Picks {β : Type} (shown : α → β) (key : α → String) (saves : List α)
    (qualifies : α → Prop) : Option α → Prop where
  | some {record found : α} (earliest : Earliest key saves qualifies record)
    (same : shown found = shown record) : Picks shown key saves qualifies (some found)
  | none (missing : ∀ record, Latest key saves record → ¬ qualifies record) :
    Picks shown key saves qualifies none

theorem Tells.find? (tells : Tells key saves table) {qualifies : α → Prop} {wanted : α → Bool}
    (means : ∀ record, wanted record = true ↔ qualifies record) :
    Picks id key saves qualifies (table.find? wanted) := by
  cases found : table.find? wanted with
  | none =>
    refine .none fun record latest qualified => ?_
    exact List.find?_eq_none.mp found record ((tells.mem_iff record).mpr latest)
      ((means record).mpr qualified)
  | some record =>
    obtain ⟨hit, front, back, split, missed⟩ := List.find?_eq_some_iff_append.mp found
    have held : record ∈ table := split ▸ List.mem_append_right _ List.mem_cons_self
    refine .some ⟨(tells.mem_iff record).mp held, (means record).mp hit, fun other latest qualified => ?_⟩ rfl
    -- what stands before the hit does not qualify, and what stands behind it was stored first later
    have member := (tells.mem_iff other).mpr latest
    have ordered := tells.ordered
    rw [split] at member ordered
    rw [List.map_append, List.map_cons, List.pairwise_append, List.pairwise_cons] at ordered
    rcases List.mem_append.mp member with early | late
    · have out := missed other early
      rw [(means other).mpr qualified] at out
      cases out
    · rcases List.mem_cons.mp late with rfl | late
      · exact Nat.le_refl _
      · exact Nat.le_of_lt (ordered.2.1.1 _ (List.mem_map_of_mem late))

end Parley.Table
