import ChainCrawl.Explorer.Listing
import ChainCrawl.Proofs.Proc.Value

namespace ChainCrawl.Explorer

namespace Listing

variable (q : Listing)

theorem one_le_pageSize : 1 ≤ q.pageSize :=
  Nat.le_max_left _ _

theorem pageSize_le : q.pageSize ≤ reachableItems := by
  unfold pageSize reachableItems
  omega

theorem one_le_pageLimit : 1 ≤ q.pageLimit :=
  Nat.div_pos q.pageSize_le q.one_le_pageSize

theorem pageSize_ofBlocks (first last : Int) : (ofBlocks first last).pageSize = 1000 := by
  change max 1 (min fullPage.toNat reachableItems) = 1000
  decide

/-- The items of a list on the page after the first `earlier` pages. -/
def pageAfter {α : Type} (xs : List α) (earlier : Nat) : List α :=
  (xs.drop (earlier * q.pageSize)).take q.pageSize

variable {q}

theorem drop_eq_pageAfter_append {α : Type} (xs : List α) (earlier : Nat) :
    xs.drop (earlier * q.pageSize) =
      q.pageAfter xs earlier ++ xs.drop ((earlier + 1) * q.pageSize) := by
  rw [pageAfter, Nat.succ_mul, ← List.drop_drop, List.take_append_drop]

theorem length_pageAfter_lt_iff {α : Type} {xs : List α} {earlier : Nat} :
    (q.pageAfter xs earlier).length < q.pageSize ↔ xs.length < (earlier + 1) * q.pageSize := by
  have hsize := q.one_le_pageSize
  rw [pageAfter, List.length_take, List.length_drop, Nat.succ_mul]
  omega

/-- A page that is not full ends its list. -/
theorem drop_eq_pageAfter {α : Type} {xs : List α} {earlier : Nat}
    (h : xs.length < (earlier + 1) * q.pageSize) :
    xs.drop (earlier * q.pageSize) = q.pageAfter xs earlier := by
  rw [drop_eq_pageAfter_append, List.drop_eq_nil_of_le (Nat.le_of_lt h), List.append_nil]

end Listing

variable {S : Signature} {answer : (r : S.Request) → S.Answer r} {q : Listing}
  {fetchPage : Nat → Query S (List Json)} {xs : List Json}

/-- Only the pages that begin within the list, or right after its end, are looked at. -/
theorem value_pagesFrom (hwhole : q.whole = true) {limit : Nat}
    (hpages : ∀ earlier, earlier < limit → earlier * q.pageSize ≤ xs.length →
      (fetchPage (earlier + 1)).run.value answer = .ok (q.pageAfter xs earlier))
    {further earlier : Nat} (hlimit : earlier + 1 + further ≤ limit)
    (hstart : earlier * q.pageSize ≤ xs.length) :
    (pagesFrom q fetchPage further (earlier + 1)).run.value answer =
      if xs.length < (earlier + 1 + further) * q.pageSize then
        .ok (xs.drop (earlier * q.pageSize))
      else .error (.overfull q.firstBlock q.lastBlock reachableItems) := by
  induction further generalizing earlier with
  | zero =>
    have hpage := hpages earlier (by omega) hstart
    unfold pagesFrom
    rw [Proc.value_run_bind_of_ok hpage, hwhole]
    by_cases hshort : xs.length < (earlier + 1) * q.pageSize
    · have hlength := Listing.length_pageAfter_lt_iff.2 hshort
      rw [if_pos (by simpa using hlength), if_pos hshort, Listing.drop_eq_pageAfter hshort]
      rfl
    · have hlength := mt Listing.length_pageAfter_lt_iff.1 hshort
      rw [if_neg (by simpa using hlength), if_neg hshort]
      rfl
  | succ further ih =>
    have hpage := hpages earlier (by omega) hstart
    unfold pagesFrom
    rw [Proc.value_run_bind_of_ok hpage, hwhole]
    by_cases hshort : xs.length < (earlier + 1) * q.pageSize
    · have hlength := Listing.length_pageAfter_lt_iff.2 hshort
      have hlimit : xs.length < (earlier + 1 + (further + 1)) * q.pageSize :=
        Nat.lt_of_lt_of_le hshort (Nat.mul_le_mul_right _ (by omega))
      rw [if_pos (by simpa using hlength), if_pos hlimit, Listing.drop_eq_pageAfter hshort]
      rfl
    · have hlength := mt Listing.length_pageAfter_lt_iff.1 hshort
      have hrest := @ih (earlier + 1) (by omega) (by omega)
      have hsum : earlier + 1 + 1 + further = earlier + 1 + (further + 1) := by omega
      rw [hsum] at hrest
      rw [if_neg (by simpa using hlength)]
      by_cases hend : xs.length < (earlier + 1 + (further + 1)) * q.pageSize
      · rw [if_pos hend] at hrest ⊢
        rw [Listing.drop_eq_pageAfter_append]
        exact Proc.value_run_bind_of_ok hrest
      · rw [if_neg hend] at hrest ⊢
        exact Proc.value_run_bind_of_error hrest

/-- A whole list is read to its end, or refused where its pages reach too far. -/
theorem value_readPages (hwhole : q.whole = true)
    (hpages : ∀ earlier, earlier < q.pageLimit → earlier * q.pageSize ≤ xs.length →
      (fetchPage (earlier + 1)).run.value answer = .ok (q.pageAfter xs earlier)) :
    (readPages q fetchPage).run.value answer =
      if xs.length < q.pageLimit * q.pageSize then .ok xs
      else .error (.overfull q.firstBlock q.lastBlock reachableItems) := by
  have hlimit := q.one_le_pageLimit
  have hsum : 0 + 1 + (q.pageLimit - 1) = q.pageLimit := by omega
  have hread := value_pagesFrom hwhole hpages (Nat.le_of_eq hsum) (by simp)
  rw [hsum] at hread
  simpa [readPages] using hread

/-- Where not all of a list is wanted, only its first page is looked at. -/
theorem value_readPages_of_not_whole (hwhole : ¬ q.whole = true) {items : List Json}
    (hpage : (fetchPage 1).run.value answer = .ok items) :
    (readPages q fetchPage).run.value answer = .ok items := by
  have hlast : (!q.whole || decide (items.length < q.pageSize)) = true := by simp [hwhole]
  unfold readPages
  generalize q.pageLimit - 1 = further
  cases further with
  | zero | succ further =>
    unfold pagesFrom
    rw [Proc.value_run_bind_of_ok hpage, if_pos hlast]
    rfl

end ChainCrawl.Explorer
