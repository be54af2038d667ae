import ChainCrawl.Table.Record

namespace ChainCrawl

/-- Some row has the identifier. -/
def IsHeld (rows : List ActivityRecord) (identifier : String) : Prop :=
  ∃ row ∈ rows, row.identifier = identifier

theorem isHeld_cons_iff {row : ActivityRecord} {rows : List ActivityRecord} {identifier : String} :
    IsHeld (row :: rows) identifier ↔ row.identifier = identifier ∨ IsHeld rows identifier := by
  simp [IsHeld]

theorem isHeld_upsertRecord_iff {r : ActivityRecord} {rows : List ActivityRecord}
    {identifier : String} :
    IsHeld (upsertRecord r rows) identifier ↔
      r.identifier = identifier ∨ IsHeld rows identifier := by
  induction rows with
  | nil => simp [upsertRecord, isHeld_cons_iff]
  | cons head rest ih =>
    unfold upsertRecord
    split
    · rename_i heq
      simp [isHeld_cons_iff, heq]
    · simp only [isHeld_cons_iff, ih]
      exact or_left_comm

theorem isHeld_upsertAll_iff {rows batch : List ActivityRecord} {identifier : String} :
    IsHeld (upsertAll rows batch) identifier ↔
      IsHeld rows identifier ∨ IsHeld batch identifier := by
  induction batch generalizing rows with
  | nil => simp [upsertAll, IsHeld]
  | cons r rest ih =>
    have hrest := @ih (upsertRecord r rows)
    rw [isHeld_upsertRecord_iff] at hrest
    rw [isHeld_cons_iff, ← or_assoc, or_comm (a := IsHeld rows identifier)]
    exact hrest

namespace RecordTable

theorem isSome_get?_iff {s : RecordTable} {identifier : String} :
    (s.get? identifier).isSome ↔ IsHeld s.rows identifier := by
  simp [get?, IsHeld, List.find?_isSome]

/-- Merging the repeated identifiers of a batch first loses none of them. -/
theorem isSome_get?_addBatch_iff {s : RecordTable} {batch : List ActivityRecord}
    {identifier : String} :
    ((s.addBatch batch).get? identifier).isSome ↔
      (s.get? identifier).isSome ∨ IsHeld batch identifier := by
  simp only [isSome_get?_iff, addBatch, collapse, isHeld_upsertAll_iff]
  simp [IsHeld]

end RecordTable

end ChainCrawl
