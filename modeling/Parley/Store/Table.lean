/-!
Tables: lists of records in the order in which they were first stored.
-/

namespace Parley.Table

variable {α : Type}

/-- Stores a record in place of the first one that it replaces, or at the end. -/
def put (replaces : α → Bool) (record : α) : List α → List α
  | [] => [record]
  | old :: rest => if replaces old then record :: rest else old :: put replaces record rest

def update (qualifies : α → Bool) (change : α → α) : List α → List α
  | [] => []
  | old :: rest => if qualifies old then change old :: rest else old :: update qualifies change rest

theorem find?_put_same {replaces : α → Bool} {record : α} (hit : replaces record) (table : List α) :
    (put replaces record table).find? replaces = some record := by
  induction table with
  | nil => simp [put, hit]
  | cons old rest ih => by_cases h : replaces old <;> simp [put, h, hit, ih]

theorem filter_put {replaces keeps : α → Bool} {record : α} (out : keeps record = false)
    (apart : ∀ old, replaces old → keeps old = false) (table : List α) :
    (put replaces record table).filter keeps = table.filter keeps := by
  induction table with
  | nil => simp [put, out]
  | cons old rest ih =>
    by_cases h : replaces old
    · simp [put, h, out, apart old h]
    · by_cases k : keeps old <;> simp [put, h, k, ih]

/-- The last records of a list; a limit of zero takes all, and a negative one leaves out as many at
the start. -/
def tail (limit : Int) (table : List α) : List α :=
  if limit = 0 then table
  else if limit < 0 then table.drop limit.natAbs
  else table.drop (table.length - limit.toNat)

end Parley.Table
