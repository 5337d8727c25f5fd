import Mathlib.Algebra.Ring.Int.Defs
import Parley.Store.Table

/-!
What storing or changing a record does to a table: to a projection of its records, to what is found,
and to what all records have in common.
-/

namespace Parley.Table

variable {α β : Type}

theorem map_update {qualifies : α → Bool} {change : α → α} {shown : α → β}
    (keeps : ∀ record, shown (change record) = shown record) (table : List α) :
    (update qualifies change table).map shown = table.map shown := by
  induction table with
  | nil => rfl
  | cons old rest ih => by_cases h : qualifies old <;> simp [update, h, keeps, ih]

theorem mem_update {qualifies : α → Bool} {change : α → α} {table : List α} {record : α}
    (member : record ∈ update qualifies change table) :
    record ∈ table ∨ ∃ old ∈ table, record = change old := by
  induction table with
  | nil => cases member
  | cons old rest ih =>
    by_cases h : qualifies old
    · rw [update, if_pos h] at member
      rcases List.mem_cons.mp member with rfl | member
      · exact Or.inr ⟨old, List.mem_cons_self, rfl⟩
      · exact Or.inl (List.mem_cons_of_mem _ member)
    · rw [update, if_neg h] at member
      rcases List.mem_cons.mp member with rfl | member
      · exact Or.inl List.mem_cons_self
      · rcases ih member with kept | ⟨old', member, same⟩
        · exact Or.inl (List.mem_cons_of_mem _ kept)
        · exact Or.inr ⟨old', List.mem_cons_of_mem _ member, same⟩

theorem find?_update {qualifies wanted : α → Bool} {change : α → α} {table : List α} {target : α}
    (found : table.find? wanted = some target) (hit : qualifies target)
    (only : ∀ record ∈ table, qualifies record → record = target)
    (stays : wanted (change target)) :
    (update qualifies change table).find? wanted = some (change target) := by
  induction table with
  | nil => cases found
  | cons old rest ih =>
    by_cases h : qualifies old
    · have same := only old List.mem_cons_self h
      subst same
      simp [update, h, stays]
    · by_cases wants : wanted old
      · rw [List.find?_cons_of_pos wants] at found
        cases found
        exact absurd hit h
      · rw [List.find?_cons_of_neg wants] at found
        rw [update, if_neg h, List.find?_cons_of_neg wants]
        exact ih found fun record member => only record (List.mem_cons_of_mem _ member)

theorem put_of_none {replaces : α → Bool} {record : α} {table : List α}
    (absent : table.find? replaces = none) : put replaces record table = table ++ [record] := by
  induction table with
  | nil => rfl
  | cons old rest ih =>
    by_cases h : replaces old
    · rw [List.find?_cons_of_pos h] at absent
      cases absent
    · rw [List.find?_cons_of_neg h] at absent
      rw [put, if_neg h, ih absent, List.cons_append]

theorem map_put {replaces : α → Bool} {record old : α} {shown : α → β} {table : List α}
    (found : table.find? replaces = some old) (keeps : shown old = shown record) :
    (put replaces record table).map shown = table.map shown := by
  induction table with
  | nil => cases found
  | cons first rest ih =>
    by_cases h : replaces first
    · rw [List.find?_cons_of_pos h] at found
      cases found
      rw [put, if_pos h, List.map_cons, List.map_cons, keeps]
    · rw [List.find?_cons_of_neg h] at found
      rw [put, if_neg h, List.map_cons, List.map_cons, ih found]

theorem length_put_le (replaces : α → Bool) (record : α) (table : List α) :
    (put replaces record table).length ≤ table.length + 1 := by
  induction table with
  | nil => exact Nat.le_refl 1
  | cons old rest ih =>
    by_cases h : replaces old
    · rw [put, if_pos h]
      exact Nat.le_succ _
    · rw [put, if_neg h]
      exact Nat.succ_le_succ ih

theorem mem_put {replaces : α → Bool} {record member : α} {table : List α}
    (h : member ∈ put replaces record table) : member ∈ table ∨ member = record := by
  induction table with
  | nil => exact Or.inr (List.mem_singleton.mp h)
  | cons old rest ih =>
    by_cases replaced : replaces old
    · rw [put, if_pos replaced] at h
      rcases List.mem_cons.mp h with rfl | h
      · exact Or.inr rfl
      · exact Or.inl (List.mem_cons_of_mem _ h)
    · rw [put, if_neg replaced] at h
      rcases List.mem_cons.mp h with rfl | h
      · exact Or.inl List.mem_cons_self
      · exact (ih h).imp_left (List.mem_cons_of_mem _)

theorem find?_put_of_apart {replaces wanted : α → Bool} {record : α} (out : wanted record = false)
    (apart : ∀ old, replaces old → wanted old = false) (table : List α) :
    (put replaces record table).find? wanted = table.find? wanted := by
  rw [← List.head?_filter, ← List.head?_filter, filter_put out apart]

/-- Storing a record adds its weight, and takes away that of the one that it replaces. -/
theorem sum_put (replaces : α → Bool) (record : α) (weight : α → Int) (table : List α) :
    ((put replaces record table).map weight).sum =
      (table.map weight).sum + weight record - ((table.find? replaces).map weight).getD 0 := by
  induction table with
  | nil => simp [put]
  | cons old rest ih =>
    by_cases replaced : replaces old
    · rw [put, if_pos replaced, List.find?_cons_of_pos replaced]
      simp only [List.map_cons, List.sum_cons, Option.map_some, Option.getD_some]
      omega
    · rw [put, if_neg replaced, List.find?_cons_of_neg replaced, List.map_cons, List.sum_cons, ih,
        List.map_cons, List.sum_cons]
      omega

theorem put_eq_update {replaces : α → Bool} {change : α → α} {table : List α} {old : α}
    (found : table.find? replaces = some old) :
    put replaces (change old) table = update replaces change table := by
  induction table with
  | nil => cases found
  | cons first rest ih =>
    by_cases hit : replaces first
    · rw [List.find?_cons_of_pos hit] at found
      cases found
      rw [put, if_pos hit, update, if_pos hit]
    · rw [List.find?_cons_of_neg hit] at found
      rw [put, if_neg hit, update, if_neg hit, ih found]

theorem update_of_none {qualifies : α → Bool} {change : α → α} {table : List α}
    (absent : table.find? qualifies = none) : update qualifies change table = table := by
  induction table with
  | nil => rfl
  | cons old rest ih =>
    by_cases h : qualifies old
    · rw [List.find?_cons_of_pos h] at absent
      cases absent
    · rw [List.find?_cons_of_neg h] at absent
      rw [update, if_neg h, ih absent]

end Parley.Table
