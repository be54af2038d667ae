import ChainCrawl.Record.Merge

namespace ChainCrawl

/-- Delivers one record: the row with its identifier is merged with it, or it becomes a row. -/
def upsertRecord (r : ActivityRecord) : List ActivityRecord → List ActivityRecord
  | [] => [r]
  | row :: rest =>
    if row.identifier = r.identifier then row.merge r :: rest else row :: upsertRecord r rest

def upsertAll (rows batch : List ActivityRecord) : List ActivityRecord :=
  batch.foldl (fun rows r => upsertRecord r rows) rows

/-- No two rows have the same identifier. -/
def Distinct (rows : List ActivityRecord) : Prop :=
  rows.Pairwise (·.identifier ≠ ·.identifier)

theorem identifier_of_mem_upsertRecord {r : ActivityRecord} {rows : List ActivityRecord}
    {row : ActivityRecord} (h : row ∈ upsertRecord r rows) :
    row.identifier = r.identifier ∨ ∃ old ∈ rows, row.identifier = old.identifier := by
  induction rows with
  | nil => simp_all [upsertRecord]
  | cons head rest ih =>
    unfold upsertRecord at h
    split at h
    · rename_i heq
      rcases List.mem_cons.1 h with rfl | h
      · exact .inl (by simpa using heq)
      · exact .inr ⟨row, List.mem_cons_of_mem _ h, rfl⟩
    · rcases List.mem_cons.1 h with rfl | h
      · exact .inr ⟨row, List.mem_cons_self, rfl⟩
      · rcases ih h with h | ⟨old, hold, h⟩
        · exact .inl h
        · exact .inr ⟨old, List.mem_cons_of_mem _ hold, h⟩

theorem Distinct.upsertRecord {rows : List ActivityRecord} (h : Distinct rows)
    (r : ActivityRecord) : Distinct (upsertRecord r rows) := by
  induction rows with
  | nil => simp [ChainCrawl.upsertRecord, Distinct]
  | cons head rest ih =>
    obtain ⟨hhead, hrest⟩ := List.pairwise_cons.1 h
    unfold ChainCrawl.upsertRecord
    split
    · exact List.pairwise_cons.2 ⟨fun row hrow => by simpa using hhead row hrow, hrest⟩
    · rename_i hne
      refine List.pairwise_cons.2 ⟨fun row hrow => ?_, ih hrest⟩
      rcases identifier_of_mem_upsertRecord hrow with heq | ⟨old, hold, heq⟩
      · rw [heq]
        exact hne
      · rw [heq]
        exact hhead old hold

theorem Distinct.upsertAll {rows : List ActivityRecord} (h : Distinct rows)
    (batch : List ActivityRecord) : Distinct (upsertAll rows batch) := by
  induction batch generalizing rows with
  | nil => exact h
  | cons r rest ih => exact ih (h.upsertRecord r)

/-- The rows, in the order in which their events first came. -/
structure RecordTable where
  rows : List ActivityRecord
  distinct : Distinct rows

namespace RecordTable

def empty : RecordTable :=
  ⟨[], .nil⟩

instance : Inhabited RecordTable := ⟨empty⟩

/-- A batch with its repeated identifiers merged. -/
def collapse (batch : List ActivityRecord) : List ActivityRecord :=
  upsertAll [] batch

/-- Stores a batch at once, after its repeated identifiers have been merged. -/
def addBatch (s : RecordTable) (batch : List ActivityRecord) : RecordTable :=
  ⟨upsertAll s.rows (collapse batch), s.distinct.upsertAll _⟩

def get? (s : RecordTable) (identifier : String) : Option ActivityRecord :=
  s.rows.find? (·.identifier = identifier)

def size (s : RecordTable) : Nat :=
  s.rows.length

/-- The rows in the order of their identifiers. -/
def sorted (s : RecordTable) : List ActivityRecord :=
  s.rows.mergeSort fun a b => a.identifier ≤ b.identifier

end RecordTable

end ChainCrawl
