import ChainCrawl.Table.Visit

namespace ChainCrawl

theorem Ascending.eq_of_mem {visits : List Visit} (h : Ascending visits) {v w : Visit}
    (hv : v ∈ visits) (hw : w ∈ visits) (heq : v.1 = w.1) : v = w := by
  induction visits with
  | nil => cases hv
  | cons head rest ih =>
    obtain ⟨hhead, hrest⟩ := List.pairwise_cons.1 h
    obtain rfl | hv' := List.mem_cons.1 hv
    · obtain rfl | hw' := List.mem_cons.1 hw
      · rfl
      · exact absurd (hhead w hw') (heq ▸ String.lt_irrefl v.1)
    · obtain rfl | hw' := List.mem_cons.1 hw
      · exact absurd (hhead v hv') (heq ▸ String.lt_irrefl v.1)
      · exact ih hrest hv' hw'

/-- No member is held twice. -/
theorem Ascending.nodup {visits : List Visit} (h : Ascending visits) :
    (visits.map (·.1)).Nodup := by
  refine List.pairwise_map.2 (h.imp fun hlt heq => ?_)
  exact String.lt_irrefl _ (heq ▸ hlt)

/-- No member comes after the last one. -/
theorem Ascending.le_of_getLast? {visits : List Visit} (h : Ascending visits) {v : Visit}
    (hlast : visits.getLast? = some v) : ∀ w ∈ visits, w.1 ≤ v.1 := by
  obtain ⟨before, rfl⟩ := List.getLast?_eq_some_iff.1 hlast
  obtain ⟨-, -, hbefore⟩ := List.pairwise_append.1 h
  intro w hw
  obtain hw | hw := List.mem_append.1 hw
  · have hlt : w.1 < v.1 := hbefore w hw v List.mem_cons_self
    exact String.not_lt.1 fun hgt => String.lt_irrefl _ (String.lt_trans hgt hlt)
  · obtain rfl := List.mem_singleton.1 hw
    exact String.le_refl _

/-- The visits behind the last of the first few are those that are left over. -/
theorem Ascending.filter_lt_of_getLast? {visits : List Visit} (h : Ascending visits) {n : Nat}
    {v : Visit} (hlast : (visits.take n).getLast? = some v) :
    visits.filter (v.1 < ·.1) = visits.drop n := by
  rw [← List.take_append_drop n visits] at h
  obtain ⟨htaken, -, hrest⟩ := List.pairwise_append.1 h
  have hnone : (visits.take n).filter (v.1 < ·.1) = [] :=
    List.filter_eq_nil_iff.2 fun w hw =>
      by simpa using String.not_lt.2 (Ascending.le_of_getLast? htaken hlast w hw)
  have hsome : (visits.drop n).filter (v.1 < ·.1) = visits.drop n :=
    List.filter_eq_self.2 fun w hw =>
      decide_eq_true (hrest v (List.mem_of_getLast? hlast) w hw)
  calc visits.filter (v.1 < ·.1)
      = (visits.take n ++ visits.drop n).filter (v.1 < ·.1) := by rw [List.take_append_drop]
    _ = visits.drop n := by rw [List.filter_append, hnone, hsome, List.nil_append]

namespace VisitTable

variable {s : VisitTable} {member : String}

theorem scoreOf?_eq_some_iff {score : Int} :
    s.scoreOf? member = some score ↔ (member, score) ∈ s.visits := by
  constructor
  · intro h
    obtain ⟨v, hfound, rfl⟩ := Option.map_eq_some_iff.1 h
    obtain rfl : v.1 = member := by simpa using List.find?_some hfound
    exact List.mem_of_find?_eq_some hfound
  · intro h
    obtain ⟨v, hfound⟩ := Option.isSome_iff_exists.1
      (List.find?_isSome.2 ⟨(member, score), h, by simp⟩ :
        (s.visits.find? (·.1 = member)).isSome)
    have hname : v.1 = member := by simpa using List.find?_some hfound
    have heq : v = (member, score) :=
      s.ascending.eq_of_mem (List.mem_of_find?_eq_some hfound) h hname
    rw [scoreOf?, hfound, heq]
    rfl

/-- The score of a member after a visit, from the score before it. -/
def raised (old : Option Int) (score : Int) : Int :=
  (old.map (max · score)).getD score

end VisitTable

private theorem find?_upsertVisit {visits : List Visit} (h : Ascending visits) (member : String)
    (score : Int) (other : String) :
    ((upsertVisit member score visits).find? (·.1 = other)).map (·.2) =
      if member = other then
        some (VisitTable.raised ((visits.find? (·.1 = other)).map (·.2)) score)
      else (visits.find? (·.1 = other)).map (·.2) := by
  induction visits with
  | nil =>
    by_cases heq : member = other <;> simp [upsertVisit, VisitTable.raised, heq]
  | cons head rest ih =>
    obtain ⟨m, s⟩ := head
    obtain ⟨hhead, hrest⟩ := List.pairwise_cons.1 h
    unfold upsertVisit
    split
    · rename_i hlt
      by_cases heq : member = other
      · subst heq
        have hnone : ((m, s) :: rest).find? (·.1 = member) = none := by
          refine List.find?_eq_none.2 fun v hv hname => ?_
          obtain rfl : v.1 = member := by simpa using hname
          obtain rfl | hv := List.mem_cons.1 hv
          · exact String.lt_irrefl _ hlt
          · exact String.lt_irrefl _ (String.lt_trans hlt (hhead v hv))
        simp [hnone, VisitTable.raised]
      · simp [heq]
    · split
      · rename_i heq
        subst heq
        by_cases hm : member = other <;> simp [hm, VisitTable.raised]
      · rename_i hne
        by_cases hm : m = other
        · subst hm
          simp [hne]
        · simpa [hm] using ih hrest

namespace VisitTable

variable {s : VisitTable} {member : String}

/-- A visit counts for its own member, where it does not lower the score. -/
theorem scoreOf?_upsert (s : VisitTable) (member : String) (score : Int) (other : String) :
    (s.upsert member score).scoreOf? other =
      if member = other then some (raised (s.scoreOf? other) score) else s.scoreOf? other :=
  find?_upsertVisit s.ascending member score other

theorem exists_mem_upsert {v : Visit} (h : v ∈ s.visits) (member : String) (score : Int) :
    ∃ later, v.2 ≤ later ∧ (v.1, later) ∈ (s.upsert member score).visits := by
  have hscore : s.scoreOf? v.1 = some v.2 := scoreOf?_eq_some_iff.2 h
  obtain hmember | hmember := Decidable.em (member = v.1)
  · refine ⟨max v.2 score, Int.le_max_left _ _, scoreOf?_eq_some_iff.1 ?_⟩
    rw [scoreOf?_upsert, if_pos hmember, hscore]
    rfl
  · refine ⟨v.2, Int.le_refl _, scoreOf?_eq_some_iff.1 ?_⟩
    rw [scoreOf?_upsert, if_neg hmember, hscore]

/-- Scores that are high enough stay, and the others are gone. -/
theorem scoreOf?_dropBelow (s : VisitTable) (least : Int) (member : String) :
    (s.dropBelow least).2.scoreOf? member = (s.scoreOf? member).filter (least ≤ ·) := by
  refine Option.ext fun score => ?_
  rw [scoreOf?_eq_some_iff, Option.filter_eq_some_iff, scoreOf?_eq_some_iff]
  simp [dropBelow, filter]

/-- What is removed is gone, and all else is as it was. -/
theorem scoreOf?_erase (s : VisitTable) (member other : String) :
    (s.erase member).2.scoreOf? other = if member = other then none else s.scoreOf? other := by
  refine Option.ext fun score => ?_
  rw [scoreOf?_eq_some_iff]
  split
  · rename_i heq
    simp [erase, filter, heq]
  · rename_i hne
    rw [scoreOf?_eq_some_iff]
    simp [erase, filter, Ne.symm hne]

theorem eq_of_visits {s s' : VisitTable} (h : s.visits = s'.visits) : s = s' := by
  cases s
  cases s'
  cases h
  rfl

/-- Whether low scores or a member go first makes no difference. -/
theorem erase_dropBelow (s : VisitTable) (least : Int) (member : String) :
    ((s.dropBelow least).2.erase member).2 = ((s.erase member).2.dropBelow least).2 := by
  refine eq_of_visits ?_
  simp only [erase, dropBelow, filter, List.filter_filter]
  exact List.filter_congr fun v _ => Bool.and_comm _ _

/-- Low scores go with one bound after the other, in either order. -/
theorem dropBelow_dropBelow (s : VisitTable) (least other : Int) :
    ((s.dropBelow least).2.dropBelow other).2 = ((s.dropBelow other).2.dropBelow least).2 := by
  refine eq_of_visits ?_
  simp only [dropBelow, filter, List.filter_filter]
  exact List.filter_congr fun v _ => Bool.and_comm _ _

/-- Drops low scores, with one bound after the other. -/
def dropAll (s : VisitTable) (bounds : List Int) : VisitTable :=
  bounds.foldl (fun s least => (s.dropBelow least).2) s

theorem mem_of_mem_dropAll {bounds : List Int} {v : Visit} (h : v ∈ (s.dropAll bounds).visits) :
    v ∈ s.visits := by
  induction bounds generalizing s with
  | nil => exact h
  | cons least rest ih => exact (List.mem_filter.1 (ih h)).1

/-- A score stays where no bound exceeds it. -/
theorem scoreOf?_dropAll (s : VisitTable) (bounds : List Int) (member : String) :
    (s.dropAll bounds).scoreOf? member =
      (s.scoreOf? member).filter fun score => bounds.all (· ≤ score) := by
  induction bounds generalizing s with
  | nil => cases h : s.scoreOf? member <;> exact h
  | cons least rest ih =>
    refine (ih (s.dropBelow least).2).trans ?_
    rw [scoreOf?_dropBelow, Option.filter_filter]
    rfl

/-- All visits behind a member that are scored high enough. -/
def liveAfter (s : VisitTable) (after : Option String) (least : Int) : List Visit :=
  s.visits.filter fun visit =>
    (match after with
      | some member => decide (member < visit.1)
      | none => true) && least ≤ visit.2

theorem membersAfter_eq (s : VisitTable) (after : Option String) (least : Int) (limit : Nat) :
    s.membersAfter after least limit = (s.liveAfter after least).take limit := rfl

theorem liveAfter_none (s : VisitTable) (least : Int) :
    s.liveAfter none least = s.visits.filter (least ≤ ·.2) := by
  simp [liveAfter]

theorem mem_liveAfter_iff {after : Option String} {least : Int} {v : Visit} :
    v ∈ s.liveAfter after least ↔
      v ∈ s.visits ∧ (∀ member, after = some member → member < v.1) ∧ least ≤ v.2 := by
  cases after <;> simp [liveAfter]

theorem ascending_liveAfter (s : VisitTable) (after : Option String) (least : Int) :
    Ascending (s.liveAfter after least) :=
  s.ascending.filter _

/-- The live visits behind the last member of a page are those that the page left over. -/
theorem liveAfter_of_getLast? {after : Option String} {least : Int} {limit : Nat} {v : Visit}
    (hlast : (s.membersAfter after least limit).getLast? = some v) :
    s.liveAfter (some v.1) least = (s.liveAfter after least).drop limit := by
  rw [membersAfter_eq] at hlast
  have hv := List.mem_of_mem_take (List.mem_of_getLast? hlast)
  obtain ⟨-, hafter, -⟩ := mem_liveAfter_iff.1 hv
  have hbehind : s.liveAfter (some v.1) least = (s.liveAfter after least).filter (v.1 < ·.1) := by
    rw [liveAfter, liveAfter, List.filter_filter]
    refine List.filter_congr fun x _ => ?_
    cases after with
    | none => simp
    | some member =>
      have hmember : v.1 < x.1 → member < x.1 := String.lt_trans (hafter member rfl)
      by_cases hx : v.1 < x.1 <;> simp [hx, hmember]
  rw [hbehind]
  exact (s.ascending_liveAfter after least).filter_lt_of_getLast? hlast

/-- What is removed up to a member does not count behind it. -/
theorem liveAfter_erase {last : String} (least : Int) (h : member ≤ last) :
    (s.erase member).2.liveAfter (some last) least = s.liveAfter (some last) least := by
  rw [liveAfter, liveAfter, erase, filter, List.filter_filter]
  refine List.filter_congr fun x _ => ?_
  by_cases hx : last < x.1
  · have hne : x.1 ≠ member := fun heq => String.not_le.2 hx (heq ▸ h)
    simp [hx, hne]
  · simp [hx]

/-- Visits that are no longer live are on no page, whether they are there or not. -/
theorem membersAfter_dropBelow (s : VisitTable) (after : Option String) (least : Int)
    (limit : Nat) :
    (s.dropBelow least).2.membersAfter after least limit = s.membersAfter after least limit := by
  simp only [membersAfter, dropBelow, filter, List.filter_filter]
  congr 2
  funext visit
  cases after <;> simp

/-- What a page holds are visits of the table. -/
theorem mem_of_mem_membersAfter {after : Option String} {least : Int} {limit : Nat} {v : Visit}
    (h : v ∈ s.membersAfter after least limit) : v ∈ s.visits :=
  (List.mem_filter.1 (List.mem_of_mem_take h)).1

end VisitTable

end ChainCrawl
