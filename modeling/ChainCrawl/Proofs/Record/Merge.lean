import ChainCrawl.Proofs.Json.Object
import ChainCrawl.Proofs.Time.Instant
import ChainCrawl.Record.Merge

namespace ChainCrawl

section Metadata

variable {first second third : Json}

theorem mergeMetadata_of_not_object (h : second.isObject = false) (first : Json) :
    mergeMetadata first second = second := by
  cases second with
  | obj => cases h
  | _ => cases first <;> rfl

theorem mergeMetadata_onto_not_object (h : first.isObject = false) (second : Json) :
    mergeMetadata first second = second := by
  cases first with
  | obj => cases h
  | _ => rfl

@[simp]
theorem isObject_mergeMetadata (first second : Json) :
    (mergeMetadata first second).isObject = second.isObject := by
  cases second with
  | obj => cases first <;> rfl
  | _ => rw [mergeMetadata_of_not_object rfl]

theorem exists_obj_of_isObject {v : Json} (h : v.isObject = true) : ∃ fields, v = .obj fields := by
  cases v with
  | obj fields => exact ⟨fields, rfl⟩
  | _ => cases h

theorem ordered_mergeMetadata (hfirst : first.Ordered) (hsecond : second.Ordered) :
    (mergeMetadata first second).Ordered := by
  cases hobject : second.isObject with
  | false => rwa [mergeMetadata_of_not_object hobject]
  | true =>
    cases hobject' : first.isObject with
    | false => rwa [mergeMetadata_onto_not_object hobject']
    | true =>
      obtain ⟨update, rfl⟩ := exists_obj_of_isObject hobject
      obtain ⟨current, rfl⟩ := exists_obj_of_isObject hobject'
      refine ⟨hfirst.1.setAll update, Json.orderedFields_iff.2 fun field hfield => ?_⟩
      obtain hmem | hmem := Json.mem_foldl_insert hfield
      · exact Json.orderedFields_iff.1 hfirst.2 field hmem
      · exact Json.orderedFields_iff.1 hsecond.2 field hmem

/-- Merging is associative except where only the middle one of three is no object. -/
theorem mergeMetadata_assoc (hordered : second.Ordered)
    (hobject : first.isObject = true → third.isObject = true → second.isObject = true) :
    mergeMetadata first (mergeMetadata second third) =
      mergeMetadata (mergeMetadata first second) third := by
  cases hthird : third.isObject with
  | false => simp only [mergeMetadata_of_not_object hthird]
  | true =>
    cases hfirst : first.isObject with
    | false => simp only [mergeMetadata_onto_not_object hfirst]
    | true =>
      obtain ⟨last, rfl⟩ := exists_obj_of_isObject hthird
      obtain ⟨update, rfl⟩ := exists_obj_of_isObject (hobject hfirst hthird)
      obtain ⟨current, rfl⟩ := exists_obj_of_isObject hfirst
      exact congrArg Json.obj (Json.setAll_setAll hordered.1 current last)

theorem mergeMetadata_self {v : Json} (hordered : v.Ordered) : mergeMetadata v v = v := by
  cases hobject : v.isObject with
  | false => exact mergeMetadata_of_not_object hobject v
  | true =>
    obtain ⟨fields, rfl⟩ := exists_obj_of_isObject hobject
    exact congrArg Json.obj (Json.setAll_self hordered.1)

/-- Of two objects the newer one's field counts, where it has one. -/
theorem get?_mergeMetadata (hordered : second.Ordered) (hfirst : first.isObject = true)
    (hsecond : second.isObject = true) (key : String) :
    (mergeMetadata first second).get? key = (second.get? key).or (first.get? key) := by
  obtain ⟨current, rfl⟩ := exists_obj_of_isObject hfirst
  obtain ⟨update, rfl⟩ := exists_obj_of_isObject hsecond
  exact Json.lookup_setAll hordered.1 key current

end Metadata

namespace ActivityRecord

variable {row r r' : ActivityRecord}

@[simp]
theorem metadata_merge (row r : ActivityRecord) :
    (row.merge r).metadata = mergeMetadata row.metadata r.metadata := rfl

theorem updatedAt_merge (row r : ActivityRecord) :
    (row.merge r).updatedAt = max row.updatedAt r.updatedAt :=
  Time.Instant.latest_eq_max row.updatedAt r.updatedAt

/-- Two deliveries may be merged with each other first. -/
theorem merge_merge (hordered : r.metadata.Ordered)
    (hobject : row.metadata.isObject = true → r'.metadata.isObject = true →
      r.metadata.isObject = true) :
    row.merge (r.merge r') = (row.merge r).merge r' := by
  have hmetadata := mergeMetadata_assoc hordered hobject
  have hupdated : row.updatedAt.latest (r.updatedAt.latest r'.updatedAt) =
      (row.updatedAt.latest r.updatedAt).latest r'.updatedAt := by
    simp only [Time.Instant.latest_eq_max, max_assoc]
  simp only [merge, hmetadata, hupdated]

/-- A record without its metadata. -/
def bare (r : ActivityRecord) : ActivityRecord :=
  { r with metadata := .null }

@[simp]
theorem bare_merge (row r : ActivityRecord) : (row.merge r).bare = row.bare.merge r.bare := rfl

/-- All but the metadata is merged in any grouping. -/
theorem bare_merge_merge (row r r' : ActivityRecord) :
    (row.merge (r.merge r')).bare = ((row.merge r).merge r').bare := by
  have hbare : row.bare.merge (r.bare.merge r'.bare) = (row.bare.merge r.bare).merge r'.bare :=
    merge_merge trivial fun hrow => nomatch hrow
  exact hbare

/-- A delivery whose metadata are no object takes nothing over from the metadata of the row. -/
theorem merge_eq_of_bare_eq {row' : ActivityRecord} (hobject : r.metadata.isObject = false)
    (hbare : row.bare = row'.bare) : row.merge r = row'.merge r := by
  have hmerge : ∀ row : ActivityRecord, row.merge r = { row.bare.merge r with
      metadata := r.metadata } := by
    intro row
    simp only [merge, bare, mergeMetadata_of_not_object hobject]
  rw [hmerge row, hmerge row', hbare]

/-- Two records are the same but for their update times. -/
def Agrees (r r' : ActivityRecord) : Prop :=
  r = { r' with updatedAt := r.updatedAt }

theorem Agrees.metadata_eq (h : r.Agrees r') : r.metadata = r'.metadata := by
  rw [h]

/-- Of two deliveries that agree either may be merged onto the other. -/
theorem merge_comm_of_agrees (h : r.Agrees r') (hordered : r.metadata.Ordered) :
    r.merge r' = r'.merge r := by
  have hself := mergeMetadata_self (h.metadata_eq ▸ hordered)
  rw [h]
  simp only [merge, hself, Time.Instant.latest_eq_max, max_comm]

theorem merge_self (hordered : r.metadata.Ordered) : r.merge r = r := by
  simp only [merge, mergeMetadata_self hordered, Time.Instant.latest_eq_max, max_self]

/-- A row takes deliveries that agree in either order. -/
theorem merge_merge_comm_of_agrees (h : r.Agrees r') (hordered : r.metadata.Ordered)
    (row : ActivityRecord) : (row.merge r).merge r' = (row.merge r').merge r := by
  have hordered' : r'.metadata.Ordered := h.metadata_eq ▸ hordered
  have hobject := congrArg Json.isObject h.metadata_eq
  calc (row.merge r).merge r'
      = row.merge (r.merge r') := (merge_merge hordered fun _ => (hobject.trans ·)).symm
    _ = row.merge (r'.merge r) := by rw [merge_comm_of_agrees h hordered]
    _ = (row.merge r').merge r := merge_merge hordered' fun _ => (hobject.symm.trans ·)

theorem merge_merge_self (hordered : r.metadata.Ordered) (row : ActivityRecord) :
    (row.merge r).merge r = row.merge r := by
  rw [← merge_merge hordered fun _ => id, merge_self hordered]

end ActivityRecord

end ChainCrawl
