import ChainCrawl.Proofs.Record.Merge
import ChainCrawl.Table.Record
import Mathlib.Data.List.Induction
import Mathlib.Order.MinMax

namespace ChainCrawl

def rowOf? (rows : List ActivityRecord) (identifier : String) : Option ActivityRecord :=
  rows.find? (·.identifier = identifier)

/-- The records that are delivered under an identifier. -/
def deliveredAs (identifier : String) (records : List ActivityRecord) : List ActivityRecord :=
  records.filter (·.identifier = identifier)

/-- The row of an event after a further delivery; there may have been none before. -/
def settle : Option ActivityRecord → ActivityRecord → Option ActivityRecord
  | none, r => some r
  | some row, r => some (row.merge r)

/-- The row of an event after deliveries, one after the other. -/
def settleAll (row : Option ActivityRecord) (delivered : List ActivityRecord) :
    Option ActivityRecord :=
  delivered.foldl settle row

/-- The metadata of records under one identifier are all objects, or none of them is one. -/
structure Joinable (records : List ActivityRecord) : Prop where
  ordered : ∀ r ∈ records, r.metadata.Ordered
  alike : ∀ r ∈ records, ∀ r' ∈ records, r.identifier = r'.identifier →
    r.metadata.isObject = r'.metadata.isObject

variable {rows records batch : List ActivityRecord} {identifier : String}

theorem Joinable.subset (h : Joinable records) (hsub : batch ⊆ records) : Joinable batch where
  ordered r hr := h.ordered r (hsub hr)
  alike r hr r' hr' heq := h.alike r (hsub hr) r' (hsub hr') heq

theorem settleAll_concat (row : Option ActivityRecord) (delivered : List ActivityRecord)
    (r : ActivityRecord) :
    settleAll row (delivered ++ [r]) = settle (settleAll row delivered) r := by
  simp [settleAll]

theorem settleAll_append (row : Option ActivityRecord) (first rest : List ActivityRecord) :
    settleAll row (first ++ rest) = settleAll (settleAll row first) rest := by
  simp [settleAll]

theorem deliveredAs_cons (identifier : String) (r : ActivityRecord)
    (records : List ActivityRecord) :
    deliveredAs identifier (r :: records) =
      if r.identifier = identifier then r :: deliveredAs identifier records
      else deliveredAs identifier records := by
  simp [deliveredAs, List.filter_cons]

theorem mem_deliveredAs_iff {r : ActivityRecord} :
    r ∈ deliveredAs identifier records ↔ r ∈ records ∧ r.identifier = identifier := by
  simp [deliveredAs]

theorem rowOf?_upsertRecord (identifier : String) (r : ActivityRecord)
    (rows : List ActivityRecord) :
    rowOf? (upsertRecord r rows) identifier =
      if r.identifier = identifier then settle (rowOf? rows identifier) r
      else rowOf? rows identifier := by
  induction rows with
  | nil =>
    by_cases hr : r.identifier = identifier <;> simp [upsertRecord, rowOf?, settle, hr]
  | cons head rest ih =>
    unfold upsertRecord
    by_cases hsame : head.identifier = r.identifier
    · rw [if_pos hsame]
      by_cases hr : r.identifier = identifier <;> simp [rowOf?, hsame, hr, settle]
    · rw [if_neg hsame]
      unfold rowOf? at ih ⊢
      rw [List.find?_cons, List.find?_cons, ih]
      by_cases hhead : head.identifier = identifier
      · have hr : r.identifier ≠ identifier := fun hr => hsame (hhead.trans hr.symm)
        simp [hhead, hr]
      · simp [hhead]

/-- Delivered one after the other, only the records under an identifier make its row. -/
theorem rowOf?_upsertAll (identifier : String) (rows batch : List ActivityRecord) :
    rowOf? (upsertAll rows batch) identifier =
      settleAll (rowOf? rows identifier) (deliveredAs identifier batch) := by
  induction batch generalizing rows with
  | nil => rfl
  | cons r rest ih =>
    have hrest := ih (upsertRecord r rows)
    rw [rowOf?_upsertRecord] at hrest
    rw [deliveredAs_cons]
    refine Eq.trans hrest ?_
    split <;> rfl

/-- A row is alone under its identifier. -/
theorem Distinct.deliveredAs_eq (h : Distinct rows) (identifier : String) :
    deliveredAs identifier rows = (rowOf? rows identifier).toList := by
  induction rows with
  | nil => rfl
  | cons row rest ih =>
    obtain ⟨hrow, hrest⟩ := List.pairwise_cons.1 h
    have hih := ih hrest
    unfold rowOf? at hih ⊢
    rw [deliveredAs_cons, List.find?_cons]
    by_cases heq : row.identifier = identifier
    · have hnone : deliveredAs identifier rest = [] :=
        List.filter_eq_nil_iff.2 fun other hother => by
          simpa [← heq] using (hrow other hother).symm
      simp [heq, hnone]
    · simp [heq, hih]

/-- There is no row only where there was none and nothing came. -/
theorem eq_nil_of_settleAll_eq_none {row : Option ActivityRecord}
    {delivered : List ActivityRecord} (h : settleAll row delivered = none) : delivered = [] := by
  induction delivered using List.reverseRecOn with
  | nil => rfl
  | append_singleton rest last ih =>
    rw [settleAll_concat] at h
    cases hrest : settleAll row rest <;> rw [hrest] at h <;> cases h

/-- Where the metadata of the row and those of the last delivery are objects, those of all
deliveries are. -/
def Unbroken (row : Option ActivityRecord) (delivered : List ActivityRecord) : Prop :=
  ∀ old ∈ row, old.metadata.isObject = true → ∀ last ∈ delivered.getLast?,
    last.metadata.isObject = true → ∀ r ∈ delivered, r.metadata.isObject = true

/-- Of merged deliveries it is the last that tells whether the metadata are an object. -/
theorem metadata_of_settleAll {delivered : List ActivityRecord} {c : ActivityRecord}
    (hordered : ∀ r ∈ delivered, r.metadata.Ordered) (hc : settleAll none delivered = some c) :
    c.metadata.Ordered ∧
      ∃ last, delivered.getLast? = some last ∧ c.metadata.isObject = last.metadata.isObject := by
  induction delivered using List.reverseRecOn generalizing c with
  | nil => cases hc
  | append_singleton rest last ih =>
    have hlast : last.metadata.Ordered :=
      hordered last (List.mem_append_right _ List.mem_cons_self)
    rw [settleAll_concat] at hc
    cases hrest : settleAll none rest with
    | none =>
      rw [hrest] at hc
      obtain rfl : last = c := Option.some.inj hc
      exact ⟨hlast, last, List.getLast?_concat, rfl⟩
    | some c' =>
      rw [hrest] at hc
      obtain rfl : c'.merge last = c := Option.some.inj hc
      have hc' := (ih (fun r hr => hordered r (List.mem_append_left _ hr)) hrest).1
      refine ⟨ordered_mergeMetadata hc' hlast, last, List.getLast?_concat, ?_⟩
      rw [ActivityRecord.metadata_merge, isObject_mergeMetadata]

/-- But for the metadata, deliveries may always be merged with each other before they are merged
onto the row. -/
theorem bare_merge_eq_settleAll {delivered : List ActivityRecord} {c : ActivityRecord}
    (hc : settleAll none delivered = some c) (row : ActivityRecord) :
    ∃ row', settleAll (some row) delivered = some row' ∧ (row.merge c).bare = row'.bare := by
  induction delivered using List.reverseRecOn generalizing c with
  | nil => cases hc
  | append_singleton rest last ih =>
    rw [settleAll_concat] at hc ⊢
    cases hrest : settleAll none rest with
    | none =>
      obtain rfl := eq_nil_of_settleAll_eq_none hrest
      obtain rfl : last = c := Option.some.inj hc
      exact ⟨_, rfl, rfl⟩
    | some c' =>
      rw [hrest] at hc
      obtain rfl : c'.merge last = c := Option.some.inj hc
      obtain ⟨row', hrow', hbare⟩ := ih hrest
      rw [hrow']
      refine ⟨_, rfl, ?_⟩
      rw [ActivityRecord.bare_merge_merge, ActivityRecord.bare_merge, hbare,
        ActivityRecord.bare_merge]

/-- Deliveries may be merged with each other before they are merged onto the row. -/
theorem settle_eq_settleAll {row : Option ActivityRecord} {delivered : List ActivityRecord}
    {c : ActivityRecord} (hordered : ∀ r ∈ delivered, r.metadata.Ordered)
    (hunbroken : Unbroken row delivered) (hc : settleAll none delivered = some c) :
    settle row c = settleAll row delivered := by
  cases row with
  | none => exact hc.symm
  | some row =>
    induction delivered using List.reverseRecOn generalizing c with
    | nil => cases hc
    | append_singleton rest last ih =>
      rw [settleAll_concat] at hc ⊢
      cases hrest : settleAll none rest with
      | none =>
        obtain rfl := eq_nil_of_settleAll_eq_none hrest
        exact congrArg (settle (some row)) (Option.some.inj hc).symm
      | some c' =>
        rw [hrest] at hc
        obtain rfl : c'.merge last = c := Option.some.inj hc
        have hordered' : ∀ r ∈ rest, r.metadata.Ordered :=
          fun r hr => hordered r (List.mem_append_left _ hr)
        obtain ⟨hc', previous, hprevious, hobject⟩ := metadata_of_settleAll hordered' hrest
        have hmem : previous ∈ rest := List.mem_of_getLast? hprevious
        have hall : row.metadata.isObject = true → last.metadata.isObject = true →
            ∀ r ∈ rest, r.metadata.isObject = true := fun hrow hlast r hr =>
          hunbroken row rfl hrow last List.getLast?_concat hlast r (List.mem_append_left _ hr)
        have hmerge : row.merge (c'.merge last) = (row.merge c').merge last :=
          ActivityRecord.merge_merge hc' fun hrow hlast =>
            hobject.trans (hall hrow hlast previous hmem)
        cases hlast : last.metadata.isObject with
        | false =>
          obtain ⟨row', hrow', hbare⟩ := bare_merge_eq_settleAll hrest row
          rw [hrow']
          exact congrArg some (hmerge.trans (ActivityRecord.merge_eq_of_bare_eq hlast hbare))
        | true =>
          have hunbroken' : Unbroken (some row) rest := by
            intro old hold hrow _ _ _ r hr
            obtain rfl := Option.some.inj hold
            exact hall hrow hlast r hr
          rw [← ih hordered' hrest hunbroken']
          exact congrArg some hmerge

/-- Deliveries under one identifier that are all alike break off no object. -/
theorem Joinable.unbroken {delivered : List ActivityRecord} (h : Joinable delivered)
    (hsame : ∀ r ∈ delivered, r.identifier = identifier) (row : Option ActivityRecord) :
    Unbroken row delivered := by
  intro _ _ _ last hlast hobject r hr
  have hmem : last ∈ delivered := List.mem_of_getLast? hlast
  exact (h.alike r hr last hmem ((hsame r hr).trans (hsame last hmem).symm)).trans hobject

namespace RecordTable

/-- The rows after batches, one after the other. -/
def addBatches (s : RecordTable) (batches : List (List ActivityRecord)) : RecordTable :=
  batches.foldl addBatch s

/-- The deliveries of a batch under one identifier are merged with each other, then onto the row. -/
theorem get?_addBatch_of_settleAll (s : RecordTable) (batch : List ActivityRecord)
    (identifier : String) :
    (s.addBatch batch).get? identifier =
      match settleAll none (deliveredAs identifier batch) with
      | none => s.get? identifier
      | some c => settle (s.get? identifier) c := by
  have hcollapse : rowOf? (collapse batch) identifier =
      settleAll none (deliveredAs identifier batch) := rowOf?_upsertAll identifier [] batch
  have hdistinct : Distinct (collapse batch) := empty.distinct.upsertAll batch
  have hrow := rowOf?_upsertAll identifier s.rows (collapse batch)
  rw [hdistinct.deliveredAs_eq, hcollapse] at hrow
  refine Eq.trans hrow ?_
  cases settleAll none (deliveredAs identifier batch) <;> rfl

/-- Merging the repeated identifiers of a batch first comes to the same row as delivering its
records one after the other. -/
theorem get?_addBatch {s : RecordTable} (hordered : ∀ r ∈ batch, r.metadata.Ordered)
    (hunbroken : Unbroken (s.get? identifier) (deliveredAs identifier batch)) :
    (s.addBatch batch).get? identifier =
      settleAll (s.get? identifier) (deliveredAs identifier batch) := by
  rw [get?_addBatch_of_settleAll]
  cases hc : settleAll none (deliveredAs identifier batch) with
  | none =>
    rw [eq_nil_of_settleAll_eq_none hc]
    rfl
  | some c =>
    exact settle_eq_settleAll (fun r hr => hordered r (mem_deliveredAs_iff.1 hr).1) hunbroken hc

/-- It does not matter how deliveries are cut into batches. -/
theorem get?_addBatches {batches : List (List ActivityRecord)} (h : Joinable batches.flatten)
    (s : RecordTable) (identifier : String) :
    (s.addBatches batches).get? identifier =
      settleAll (s.get? identifier) (deliveredAs identifier batches.flatten) := by
  induction batches generalizing s with
  | nil => rfl
  | cons batch rest ih =>
    rw [List.flatten_cons] at h
    have hbatch : Joinable batch := h.subset (List.subset_append_left _ _)
    have hsub : deliveredAs identifier batch ⊆ batch := fun r hr => (mem_deliveredAs_iff.1 hr).1
    have hunbroken := (hbatch.subset hsub).unbroken
      (fun r hr => (mem_deliveredAs_iff.1 hr).2) (s.get? identifier)
    have hrest := ih (h.subset (List.subset_append_right _ _)) (s.addBatch batch)
    rw [get?_addBatch hbatch.ordered hunbroken] at hrest
    rw [List.flatten_cons, deliveredAs, List.filter_append, settleAll_append]
    exact hrest

end RecordTable

/-- What the row of deliveries under one identifier is, part by part. -/
structure IsRowOf (delivered : List ActivityRecord) (row : ActivityRecord) : Prop where
  /-- What identifies the event comes from the first delivery. -/
  first : ∃ r, delivered.head? = some r ∧ row.identifier = r.identifier ∧ row.kind = r.kind ∧
    row.network = r.network ∧ row.platform = r.platform ∧ row.source = r.source ∧
    row.proof = r.proof ∧ row.owner = r.owner ∧ row.createdAt = r.createdAt
  /-- The lists come from the last delivery. -/
  last : ∃ r, delivered.getLast? = some r ∧ row.relatedUrls = r.relatedUrls ∧ row.tags = r.tags ∧
    row.authors = r.authors ∧ row.attachments = r.attachments
  object : row.metadata.isObject
  /-- A field of the metadata comes from the last delivery that had it. -/
  field : ∀ key, row.metadata.get? key =
    (delivered.filterMap fun r => r.metadata.get? key).getLast?
  updated : ∃ r ∈ delivered, row.updatedAt = r.updatedAt
  latest : ∀ r ∈ delivered, r.updatedAt ≤ row.updatedAt

theorem isRowOf_singleton {r : ActivityRecord} (hobject : r.metadata.isObject) :
    IsRowOf [r] r where
  first := ⟨r, rfl, rfl, rfl, rfl, rfl, rfl, rfl, rfl, rfl⟩
  last := ⟨r, rfl, rfl, rfl, rfl, rfl⟩
  object := hobject
  field key := by cases h : r.metadata.get? key <;> simp [h]
  updated := ⟨r, List.mem_cons_self, rfl⟩
  latest r' hr' := by
    obtain rfl := List.mem_singleton.1 hr'
    exact le_refl _

/-- One more delivery keeps what came from the first and takes over the rest. -/
theorem IsRowOf.merge {delivered : List ActivityRecord} {row r : ActivityRecord}
    (h : IsRowOf delivered row) (hordered : r.metadata.Ordered) (hobject : r.metadata.isObject) :
    IsRowOf (delivered ++ [r]) (row.merge r) where
  first := by
    obtain ⟨first, hfirst, hparts⟩ := h.first
    exact ⟨first, by rw [List.head?_append, hfirst]; rfl, hparts⟩
  last := ⟨r, List.getLast?_concat, rfl, rfl, rfl, rfl⟩
  object := by rwa [ActivityRecord.metadata_merge, isObject_mergeMetadata]
  field key := by
    rw [ActivityRecord.metadata_merge, get?_mergeMetadata hordered h.object hobject, h.field,
      List.filterMap_append, List.getLast?_append]
    cases hr : r.metadata.get? key <;> simp [hr]
  updated := by
    obtain ⟨latest, hlatest, hupdated⟩ := h.updated
    rw [ActivityRecord.updatedAt_merge]
    obtain hmax | hmax := max_choice row.updatedAt r.updatedAt
    · exact ⟨latest, List.mem_append_left _ hlatest, hmax.trans hupdated⟩
    · exact ⟨r, List.mem_append_right _ List.mem_cons_self, hmax⟩
  latest r' hr' := by
    rw [ActivityRecord.updatedAt_merge]
    obtain hr' | hr' := List.mem_append.1 hr'
    · exact le_max_of_le_left (h.latest r' hr')
    · obtain rfl := List.mem_singleton.1 hr'
      exact le_max_right _ _

theorem isRowOf_settleAll {delivered : List ActivityRecord} {row : ActivityRecord}
    (hordered : ∀ r ∈ delivered, r.metadata.Ordered)
    (hobject : ∀ r ∈ delivered, r.metadata.isObject)
    (hrow : settleAll none delivered = some row) : IsRowOf delivered row := by
  induction delivered using List.reverseRecOn generalizing row with
  | nil => cases hrow
  | append_singleton rest r ih =>
    have hr : r ∈ rest ++ [r] := List.mem_append_right _ List.mem_cons_self
    rw [settleAll_concat] at hrow
    cases hrest : settleAll none rest with
    | none =>
      rw [hrest] at hrow
      obtain rfl : r = row := Option.some.inj hrow
      obtain rfl := eq_nil_of_settleAll_eq_none hrest
      exact isRowOf_singleton (hobject r hr)
    | some row' =>
      rw [hrest] at hrow
      obtain rfl : row'.merge r = row := Option.some.inj hrow
      exact (ih (fun r' hr' => hordered r' (List.mem_append_left _ hr'))
        (fun r' hr' => hobject r' (List.mem_append_left _ hr')) hrest).merge
        (hordered r hr) (hobject r hr)

/-- After deliveries each identifier among them has one row, and each part of the row is that of the
first of its deliveries, of the last, or the latest. Neither the size of the batches nor how often
an identifier repeats in one of them counts. -/
theorem row_of_deliveries {batches : List (List ActivityRecord)}
    (hordered : ∀ r ∈ batches.flatten, r.metadata.Ordered)
    (hobject : ∀ r ∈ batches.flatten, r.metadata.isObject) (identifier : String) :
    (deliveredAs identifier batches.flatten = [] →
      (RecordTable.empty.addBatches batches).rows.filter (·.identifier = identifier) = []) ∧
    (deliveredAs identifier batches.flatten ≠ [] →
      ∃ row,
        (RecordTable.empty.addBatches batches).rows.filter (·.identifier = identifier) = [row] ∧
        IsRowOf (deliveredAs identifier batches.flatten) row) ∧
    ∀ others : List (List ActivityRecord), others.flatten = batches.flatten →
      (RecordTable.empty.addBatches others).get? identifier =
        (RecordTable.empty.addBatches batches).get? identifier := by
  have hjoin : Joinable batches.flatten :=
    ⟨hordered, fun r hr r' hr' _ => (hobject r hr).trans (hobject r' hr').symm⟩
  have hget := RecordTable.get?_addBatches hjoin .empty identifier
  have hrows := (RecordTable.empty.addBatches batches).distinct.deliveredAs_eq identifier
  refine ⟨fun hnone => ?_, fun hsome => ?_, fun others hflatten => ?_⟩
  · rw [hnone] at hget
    refine hrows.trans ?_
    exact congrArg Option.toList hget
  · cases hrow : settleAll none (deliveredAs identifier batches.flatten) with
    | none => exact absurd (eq_nil_of_settleAll_eq_none hrow) hsome
    | some row =>
      refine ⟨row, hrows.trans (congrArg Option.toList (hget.trans hrow)), ?_⟩
      exact isRowOf_settleAll (fun r hr => hordered r (mem_deliveredAs_iff.1 hr).1)
        (fun r hr => hobject r (mem_deliveredAs_iff.1 hr).1) hrow
  · rw [hget, RecordTable.get?_addBatches (hflatten ▸ hjoin), hflatten]

def ActivityRecord.sampleOf (source key : String) (value : Int) : ActivityRecord :=
  ((ActivityRecord.of .note .ethereum "0x1-2" "0xab" source .epoch).addTags [source]).setMetadata
    key (.int value)

/-- Three deliveries of one event in two batches, the last of which leaves out a field. -/
def RecordTable.sampleBatches : List (List ActivityRecord) :=
  [[.sampleOf "first" "amount" 1, .sampleOf "second" "amount" 2], [.sampleOf "third" "token" 3]]

theorem row_of_deliveries_sample :
    (∀ r ∈ RecordTable.sampleBatches.flatten, r.metadata.Ordered) ∧
      (∀ r ∈ RecordTable.sampleBatches.flatten, r.metadata.isObject) ∧
      deliveredAs "ethereum:0x1-2" RecordTable.sampleBatches.flatten ≠ [] ∧
      ∃ row, (RecordTable.empty.addBatches RecordTable.sampleBatches).rows.filter
          (·.identifier = "ethereum:0x1-2") = [row] ∧
        IsRowOf (deliveredAs "ethereum:0x1-2" RecordTable.sampleBatches.flatten) row ∧
        row.source = "first" ∧ row.tags = ["third"] ∧
        row.metadata = .obj [("amount", .int 2), ("token", .int 3)] := by
  have hmem : ∀ r ∈ RecordTable.sampleBatches.flatten, r = .sampleOf "first" "amount" 1 ∨
      r = .sampleOf "second" "amount" 2 ∨ r = .sampleOf "third" "token" 3 := by
    intro r hr
    simpa [RecordTable.sampleBatches] using hr
  have hordered : ∀ r ∈ RecordTable.sampleBatches.flatten, r.metadata.Ordered := by
    intro r hr
    obtain rfl | rfl | rfl := hmem r hr <;> exact ⟨List.pairwise_singleton _ _, trivial, trivial⟩
  have hobject : ∀ r ∈ RecordTable.sampleBatches.flatten, r.metadata.isObject := by
    intro r hr
    obtain rfl | rfl | rfl := hmem r hr <;> rfl
  have hsome : deliveredAs "ethereum:0x1-2" RecordTable.sampleBatches.flatten ≠ [] := by decide
  obtain ⟨row, hrow, hparts⟩ := (row_of_deliveries hordered hobject "ethereum:0x1-2").2.1 hsome
  have hvalue := hrow
  cases hvalue
  exact ⟨hordered, hobject, hsome, _, hrow, hparts, rfl, rfl, rfl⟩

end ChainCrawl
