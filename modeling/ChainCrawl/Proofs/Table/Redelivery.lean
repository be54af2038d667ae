import ChainCrawl.Proofs.Table.Delivery

namespace ChainCrawl

section Fold

variable {α β : Type} {f : β → α → β} {l m : List α}

/-- A step that was made before changes nothing. -/
theorem foldl_step_of_mem (hcomm : ∀ x ∈ l, ∀ y ∈ l, ∀ b, f (f b x) y = f (f b y) x)
    (hidem : ∀ x ∈ l, ∀ b, f (f b x) x = f b x) {x : α} (hx : x ∈ l) (b : β) :
    f (l.foldl f b) x = l.foldl f b := by
  obtain ⟨front, back, hl⟩ := List.append_of_mem hx
  have hperm : l.Perm (x :: (front ++ back)) := hl ▸ List.perm_middle
  have hmem : ∀ y ∈ l ++ [x], y ∈ l := by
    intro y hy
    obtain hy | hy := List.mem_append.1 hy
    · exact hy
    · obtain rfl := List.mem_singleton.1 hy
      exact hx
  have hagain : (l ++ [x]).Perm (x :: x :: (front ++ back)) :=
    (List.perm_append_singleton x l).trans (hperm.cons x)
  calc f (l.foldl f b) x
      = (l ++ [x]).foldl f b := by rw [List.foldl_append]; rfl
    _ = (x :: x :: (front ++ back)).foldl f b :=
        hagain.foldl_eq' (fun y hy z hz => hcomm y (hmem y hy) z (hmem z hz)) b
    _ = (x :: (front ++ back)).foldl f b := by
        rw [List.foldl_cons, List.foldl_cons, hidem x hx]
        rfl
    _ = l.foldl f b := (hperm.foldl_eq' hcomm b).symm

theorem foldl_append_of_subset (hcomm : ∀ x ∈ l, ∀ y ∈ l, ∀ b, f (f b x) y = f (f b y) x)
    (hidem : ∀ x ∈ l, ∀ b, f (f b x) x = f b x) (hsub : m ⊆ l) (b : β) :
    (l ++ m).foldl f b = l.foldl f b := by
  rw [List.foldl_append]
  induction m with
  | nil => rfl
  | cons x rest ih =>
    obtain ⟨hx, hrest⟩ := List.cons_subset.1 hsub
    rw [List.foldl_cons, foldl_step_of_mem hcomm hidem hx, ih hrest]

/-- Steps that may be swapped and repeated come to the same in any order and any number. -/
theorem foldl_eq_of_mem_iff (hcomm : ∀ x ∈ l, ∀ y ∈ l, ∀ b, f (f b x) y = f (f b y) x)
    (hidem : ∀ x ∈ l, ∀ b, f (f b x) x = f b x) (hmem : ∀ x, x ∈ m ↔ x ∈ l) (b : β) :
    m.foldl f b = l.foldl f b := by
  have hcomm' : ∀ x ∈ m, ∀ y ∈ m, ∀ b, f (f b x) y = f (f b y) x :=
    fun x hx y hy => hcomm x ((hmem x).1 hx) y ((hmem y).1 hy)
  have hidem' : ∀ x ∈ m, ∀ b, f (f b x) x = f b x := fun x hx => hidem x ((hmem x).1 hx)
  calc m.foldl f b
      = (m ++ l).foldl f b :=
        (foldl_append_of_subset hcomm' hidem' (fun x hx => (hmem x).2 hx) b).symm
    _ = (l ++ m).foldl f b := by
        refine List.perm_append_comm.foldl_eq' (fun x hx y hy => ?_) b
        simp only [List.mem_append, hmem, or_self] at hx hy
        exact hcomm x hx y hy
    _ = l.foldl f b := foldl_append_of_subset hcomm hidem (fun x hx => (hmem x).1 hx) b

end Fold

/-- Records under one identifier agree on all but their update times. -/
def Consistent (records : List ActivityRecord) : Prop :=
  ∀ r ∈ records, ∀ r' ∈ records, r.identifier = r'.identifier → r.Agrees r'

variable {records : List ActivityRecord}

theorem Consistent.joinable (h : Consistent records)
    (hordered : ∀ r ∈ records, r.metadata.Ordered) : Joinable records where
  ordered := hordered
  alike r hr r' hr' heq := congrArg Json.isObject (h r hr r' hr' heq).metadata_eq

theorem settle_settle_comm {r r' : ActivityRecord} (h : r.Agrees r')
    (hordered : r.metadata.Ordered) (row : Option ActivityRecord) :
    settle (settle row r) r' = settle (settle row r') r := by
  cases row with
  | none => exact congrArg some (ActivityRecord.merge_comm_of_agrees h hordered)
  | some row => exact congrArg some (ActivityRecord.merge_merge_comm_of_agrees h hordered row)

theorem settle_settle_self {r : ActivityRecord} (hordered : r.metadata.Ordered)
    (row : Option ActivityRecord) : settle (settle row r) r = settle row r := by
  cases row with
  | none => exact congrArg some (ActivityRecord.merge_self hordered)
  | some row => exact congrArg some (ActivityRecord.merge_merge_self hordered row)

namespace RecordTable

variable {s s' : RecordTable}

theorem mem_rows_iff {row : ActivityRecord} :
    row ∈ s.rows ↔ s.get? row.identifier = some row := by
  have hrows := s.distinct.deliveredAs_eq row.identifier
  change _ = (s.get? row.identifier).toList at hrows
  rw [← Option.mem_toList, ← hrows, mem_deliveredAs_iff]
  exact (and_iff_left rfl).symm

/-- Tables in which the same is found hold the same rows. -/
theorem perm_of_get?_eq (h : ∀ identifier, s.get? identifier = s'.get? identifier) :
    s.rows.Perm s'.rows := by
  have hnodup (s : RecordTable) : s.rows.Nodup :=
    s.distinct.imp fun {a b} hne heq => hne (congrArg ActivityRecord.identifier heq)
  refine (List.perm_ext_iff_of_nodup (hnodup s) (hnodup s')).2 fun row => ?_
  rw [mem_rows_iff, mem_rows_iff, h]

theorem pairwise_sorted (s : RecordTable) :
    s.sorted.Pairwise fun a b => a.identifier ≤ b.identifier := by
  let le (a b : ActivityRecord) : Bool := a.identifier ≤ b.identifier
  have htrans : ∀ a b c, le a b = true → le b c = true → le a c = true := fun a b c hab hbc =>
    decide_eq_true (String.le_trans (of_decide_eq_true hab) (of_decide_eq_true hbc))
  have htotal : ∀ a b, (le a b || le b a) = true := fun a b => by
    simpa [le] using String.le_total a.identifier b.identifier
  exact (List.pairwise_mergeSort htrans htotal s.rows).imp fun hle => of_decide_eq_true hle

/-- The order of the identifiers settles in which order the same rows are shown. -/
theorem sorted_eq_of_perm (h : s.rows.Perm s'.rows) : s.sorted = s'.sorted := by
  have hs : s.sorted.Perm s.rows := List.mergeSort_perm _ _
  have hs' : s'.sorted.Perm s'.rows := List.mergeSort_perm _ _
  refine List.Perm.eq_of_pairwise (fun a b ha hb hab hba => ?_) s.pairwise_sorted
    s'.pairwise_sorted (hs.trans (h.trans hs'.symm))
  have heq : a.identifier = b.identifier := String.le_antisymm hab hba
  have ha' := mem_rows_iff.1 (h.subset (hs.subset ha))
  have hb' := mem_rows_iff.1 (hs'.subset hb)
  rw [heq, hb'] at ha'
  exact (Option.some.inj ha').symm

/-- Where deliveries of one event agree on all but the update time, the rows do not depend on the
order of the batches nor on how often each one comes. No premise on the rows at the start is needed:
they may hold anything, also under the delivered identifiers. -/
theorem rows_of_redelivery {batches deliveries : List (List ActivityRecord)}
    (hordered : ∀ r ∈ batches.flatten, r.metadata.Ordered) (hagree : Consistent batches.flatten)
    (hsame : ∀ batch, batch ∈ deliveries ↔ batch ∈ batches) (s : RecordTable) :
    (s.addBatches deliveries).rows.Perm (s.addBatches batches).rows ∧
      (s.addBatches deliveries).sorted = (s.addBatches batches).sorted := by
  have hmem : ∀ r, r ∈ deliveries.flatten ↔ r ∈ batches.flatten := by
    simp only [List.mem_flatten, hsame, implies_true]
  have hjoin : Joinable batches.flatten := hagree.joinable hordered
  have hget : ∀ identifier,
      (s.addBatches deliveries).get? identifier = (s.addBatches batches).get? identifier := by
    intro identifier
    rw [get?_addBatches (hjoin.subset fun r hr => (hmem r).1 hr), get?_addBatches hjoin]
    refine foldl_eq_of_mem_iff (fun r hr r' hr' row => ?_) (fun r hr row => ?_)
      (fun r => ?_) (s.get? identifier)
    · obtain ⟨hr, hid⟩ := mem_deliveredAs_iff.1 hr
      obtain ⟨hr', hid'⟩ := mem_deliveredAs_iff.1 hr'
      exact settle_settle_comm (hagree r hr r' hr' (hid.trans hid'.symm)) (hordered r hr) row
    · exact settle_settle_self (hordered r (mem_deliveredAs_iff.1 hr).1) row
    · rw [mem_deliveredAs_iff, mem_deliveredAs_iff, hmem]
  have hperm := perm_of_get?_eq hget
  exact ⟨hperm, sorted_eq_of_perm hperm⟩

/-- A delivery whose metadata are no object. -/
def sampleNote : ActivityRecord :=
  { ActivityRecord.sampleOf "first" "amount" 1 with metadata := .str "none" }

/-- The same delivery, made later. -/
def sampleLater : ActivityRecord :=
  sampleNote.setUpdatedAt ((Time.Instant.ofUnix? 5 0).getD .epoch)

/-- The event has a row with other metadata by then, and the later delivery comes first. -/
theorem rows_of_redelivery_sample :
    ∃ (s : RecordTable) (batches deliveries : List (List ActivityRecord)),
      s = empty.addBatch [.sampleOf "old" "token" 3] ∧
      batches = [[sampleNote], [sampleLater, sampleNote]] ∧
      deliveries = [[sampleLater, sampleNote], [sampleNote], [sampleLater, sampleNote]] ∧
      (∀ r ∈ batches.flatten, r.metadata.Ordered) ∧ Consistent batches.flatten ∧
      (∀ batch, batch ∈ deliveries ↔ batch ∈ batches) ∧
      (s.addBatches deliveries).rows.Perm (s.addBatches batches).rows ∧
      (s.addBatches deliveries).sorted = (s.addBatches batches).sorted := by
  have hmem : ∀ r ∈ [[sampleNote], [sampleLater, sampleNote]].flatten,
      r = sampleNote ∨ r = sampleLater := by
    intro r hr
    simp only [List.flatten_cons, List.flatten_nil, List.cons_append, List.nil_append,
      List.mem_cons, List.not_mem_nil, or_false] at hr
    obtain rfl | rfl | rfl := hr <;> simp
  have hordered : ∀ r ∈ [[sampleNote], [sampleLater, sampleNote]].flatten,
      r.metadata.Ordered := by
    intro r hr
    obtain rfl | rfl := hmem r hr <;> trivial
  have hagree : Consistent [[sampleNote], [sampleLater, sampleNote]].flatten := by
    intro r hr r' hr' _
    obtain rfl | rfl := hmem r hr <;> obtain rfl | rfl := hmem r' hr' <;> rfl
  have hsame : ∀ batch,
      batch ∈ [[sampleLater, sampleNote], [sampleNote], [sampleLater, sampleNote]] ↔
        batch ∈ [[sampleNote], [sampleLater, sampleNote]] := by
    intro batch
    simp only [List.mem_cons, List.not_mem_nil, or_false]
    constructor
    · rintro (rfl | rfl | rfl) <;> simp
    · rintro (rfl | rfl) <;> simp
  exact ⟨_, _, _, rfl, rfl, rfl, hordered, hagree, hsame,
    rows_of_redelivery hordered hagree hsame _⟩

end RecordTable

end ChainCrawl
