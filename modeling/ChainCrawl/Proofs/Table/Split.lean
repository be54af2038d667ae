import ChainCrawl.Proofs.Table.Redelivery

namespace ChainCrawl

/-- Deliveries under one identifier may be cut in two: neither in the second part nor across the
cut are metadata that were an object replaced and then an object again. -/
structure Severable (row : Option ActivityRecord) (first rest : List ActivityRecord) : Prop where
  after : Unbroken first.getLast? rest
  across : Unbroken row (first.getLast?.toList ++ rest.getLast?.toList)

variable {row : Option ActivityRecord} {first rest : List ActivityRecord}

/-- The two parts may be merged with each other before they are merged onto the row. -/
theorem Severable.settle_settle {c c' : ActivityRecord} (h : Severable row first rest)
    (hordered : ∀ r ∈ first ++ rest, r.metadata.Ordered) (hc : settleAll none first = some c)
    (hc' : settleAll none rest = some c') :
    settle row (c.merge c') = settle (settle row c) c' := by
  cases row with
  | none => rfl
  | some row =>
    obtain ⟨hmetadata, last, hlast, hobject⟩ := metadata_of_settleAll
      (fun r hr => hordered r (List.mem_append_left _ hr)) hc
    obtain ⟨-, last', hlast', hobject'⟩ := metadata_of_settleAll
      (fun r hr => hordered r (List.mem_append_right _ hr)) hc'
    have hacross := h.across
    rw [hlast, hlast'] at hacross
    refine congrArg some (ActivityRecord.merge_merge hmetadata fun hrow hc'Object => ?_)
    rw [hobject]
    exact hacross row rfl hrow last' rfl (hobject' ▸ hc'Object) last List.mem_cons_self

/-- Merged at once, deliveries are the first part merged with the second. -/
theorem Severable.settleAll_eq_merge {c c' : ActivityRecord} (h : Severable row first rest)
    (hordered : ∀ r ∈ first ++ rest, r.metadata.Ordered) (hc : settleAll none first = some c)
    (hc' : settleAll none rest = some c') :
    settleAll none (first ++ rest) = some (c.merge c') := by
  obtain ⟨-, last, hlast, hobject⟩ := metadata_of_settleAll
    (fun r hr => hordered r (List.mem_append_left _ hr)) hc
  have hunbroken : Unbroken (some c) rest := by
    intro old hold hrow
    obtain rfl := Option.some.inj hold
    exact h.after last hlast (hobject ▸ hrow)
  rw [settleAll_append, hc]
  exact (settle_eq_settleAll (fun r hr => hordered r (List.mem_append_right _ hr)) hunbroken
    hc').symm

namespace RecordTable

variable {s : RecordTable} {batch : List ActivityRecord} {identifier : String}

theorem get?_addBatch_append (hordered : ∀ r ∈ first ++ rest, r.metadata.Ordered)
    (h : Severable (s.get? identifier) (deliveredAs identifier first)
      (deliveredAs identifier rest)) :
    (s.addBatch (first ++ rest)).get? identifier =
      ((s.addBatch first).addBatch rest).get? identifier := by
  have happend : deliveredAs identifier (first ++ rest) =
      deliveredAs identifier first ++ deliveredAs identifier rest := List.filter_append first rest
  have hordered' : ∀ r ∈ deliveredAs identifier first ++ deliveredAs identifier rest,
      r.metadata.Ordered := by
    intro r hr
    rw [← happend] at hr
    exact hordered r (mem_deliveredAs_iff.1 hr).1
  simp only [get?_addBatch_of_settleAll, happend]
  cases hc : settleAll none (deliveredAs identifier first) with
  | none =>
    rw [eq_nil_of_settleAll_eq_none hc]
    rfl
  | some c =>
    cases hc' : settleAll none (deliveredAs identifier rest) with
    | none => rw [eq_nil_of_settleAll_eq_none hc', List.append_nil, hc]
    | some c' =>
      rw [h.settleAll_eq_merge hordered' hc hc']
      exact h.settle_settle hordered' hc hc'

/-- A batch of one record needs no merging first. -/
theorem rows_addBatches_singletons (s : RecordTable) (batch : List ActivityRecord) :
    (s.addBatches (batch.map ([·]))).rows = upsertAll s.rows batch := by
  induction batch generalizing s with
  | nil => rfl
  | cons r rest ih => exact ih (s.addBatch [r])

/-- A batch leaves the rows that its two parts leave one after the other, unless between the row,
the first part and the second metadata that were an object are replaced and become an object again.
No premise on the rows at the start is needed but for those whose metadata are an object. -/
theorem rows_of_split (s : RecordTable) :
    (∀ first rest : List ActivityRecord, (∀ r ∈ first ++ rest, r.metadata.Ordered) →
      (∀ identifier, Severable (s.get? identifier) (deliveredAs identifier first)
        (deliveredAs identifier rest)) →
      (s.addBatch (first ++ rest)).rows.Perm ((s.addBatch first).addBatch rest).rows ∧
        (s.addBatch (first ++ rest)).sorted = ((s.addBatch first).addBatch rest).sorted) ∧
    ∀ batch : List ActivityRecord, (∀ r ∈ batch, r.metadata.Ordered) →
      (∀ identifier, Unbroken (s.get? identifier) (deliveredAs identifier batch)) →
      (s.addBatch batch).rows.Perm (s.addBatches (batch.map ([·]))).rows ∧
        (s.addBatch batch).sorted = (s.addBatches (batch.map ([·]))).sorted := by
  constructor
  · intro first rest hordered h
    have hperm := perm_of_get?_eq fun identifier => get?_addBatch_append hordered (h identifier)
    exact ⟨hperm, sorted_eq_of_perm hperm⟩
  · intro batch hordered h
    have hget : ∀ identifier, (s.addBatch batch).get? identifier =
        (s.addBatches (batch.map ([·]))).get? identifier := by
      intro identifier
      have hsingly := rowOf?_upsertAll identifier s.rows batch
      rw [← rows_addBatches_singletons] at hsingly
      exact (get?_addBatch hordered (h identifier)).trans hsingly.symm
    have hperm := perm_of_get?_eq hget
    exact ⟨hperm, sorted_eq_of_perm hperm⟩

/-- A table in which the metadata of the one row are no object, and a first part of such metadata:
no object of the second part was there before. -/
theorem rows_of_split_sample :
    ∃ (s : RecordTable) (first rest : List ActivityRecord),
      s = empty.addBatch [sampleNote] ∧ first = [sampleLater] ∧
      rest = [.sampleOf "second" "amount" 2, sampleNote, .sampleOf "third" "token" 3] ∧
      (∀ r ∈ first ++ rest, r.metadata.Ordered) ∧
      (∀ identifier, Severable (s.get? identifier) (deliveredAs identifier first)
        (deliveredAs identifier rest)) ∧
      (∀ identifier, Unbroken (s.get? identifier) (deliveredAs identifier (first ++ rest))) ∧
      (s.addBatch (first ++ rest)).rows.Perm ((s.addBatch first).addBatch rest).rows ∧
      (s.addBatch (first ++ rest)).rows.Perm (s.addBatches ((first ++ rest).map ([·]))).rows ∧
      (s.addBatch (first ++ rest)).rows.map (·.metadata) = [.obj [("token", .int 3)]] := by
  have hordered : ∀ r ∈ [sampleLater] ++
      [.sampleOf "second" "amount" 2, sampleNote, .sampleOf "third" "token" 3],
      r.metadata.Ordered := by
    intro r hr
    simp only [List.cons_append, List.nil_append, List.mem_cons, List.not_mem_nil, or_false] at hr
    obtain rfl | rfl | rfl | rfl := hr
    · trivial
    · exact ⟨List.pairwise_singleton _ _, trivial, trivial⟩
    · trivial
    · exact ⟨List.pairwise_singleton _ _, trivial, trivial⟩
  have hunbroken : ∀ identifier delivered,
      Unbroken ((empty.addBatch [sampleNote]).get? identifier) delivered := by
    intro identifier delivered old hold hobject
    obtain rfl := List.mem_singleton.1 (List.mem_of_find?_eq_some hold)
    cases hobject
  have hseverable : ∀ identifier, Severable ((empty.addBatch [sampleNote]).get? identifier)
      (deliveredAs identifier [sampleLater]) (deliveredAs identifier
        [.sampleOf "second" "amount" 2, sampleNote, .sampleOf "third" "token" 3]) := by
    refine fun identifier => ⟨fun last hlast hobject => ?_, hunbroken identifier _⟩
    have hmem := (mem_deliveredAs_iff.1 (List.mem_of_getLast? hlast)).1
    obtain rfl := List.mem_singleton.1 hmem
    cases hobject
  have hsplit := rows_of_split (empty.addBatch [sampleNote])
  exact ⟨_, _, _, rfl, rfl, rfl, hordered, hseverable, fun identifier => hunbroken identifier _,
    (hsplit.1 _ _ hordered hseverable).1,
    (hsplit.2 _ hordered fun identifier => hunbroken identifier _).1, rfl⟩

/-- Where the row holds an object and the two parts are one record that has none and one that has,
a field of the row outlives the batch but not the two parts. -/
theorem rows_differ_at_boundary :
    ((empty.addBatch [.sampleOf "first" "amount" 1]).addBatch
        ([sampleNote] ++ [.sampleOf "third" "token" 3])).rows.map (·.metadata) =
      [.obj [("amount", .int 1), ("token", .int 3)]] ∧
    (((empty.addBatch [.sampleOf "first" "amount" 1]).addBatch [sampleNote]).addBatch
        [.sampleOf "third" "token" 3]).rows.map (·.metadata) = [.obj [("token", .int 3)]] ∧
    ¬ ((empty.addBatch [.sampleOf "first" "amount" 1]).addBatch
        ([sampleNote] ++ [.sampleOf "third" "token" 3])).rows.Perm
      (((empty.addBatch [.sampleOf "first" "amount" 1]).addBatch [sampleNote]).addBatch
        [.sampleOf "third" "token" 3]).rows := by
  refine ⟨rfl, rfl, fun hperm => ?_⟩
  have hmetadata : [Json.obj [("amount", .int 1), ("token", .int 3)]].Perm
      [.obj [("token", .int 3)]] := hperm.map ActivityRecord.metadata
  have heq := List.perm_singleton.1 hmetadata
  simp at heq

end RecordTable

end ChainCrawl
