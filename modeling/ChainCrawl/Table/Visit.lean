namespace ChainCrawl

/-- A member and its score, the Unix second of its last visit. -/
abbrev Visit := String × Int

/-- Sets the score of a member, or raises it. -/
def upsertVisit (member : String) (score : Int) : List Visit → List Visit
  | [] => [(member, score)]
  | (m, s) :: rest =>
    if member < m then (member, score) :: (m, s) :: rest
    else if member = m then (m, max s score) :: rest
    else (m, s) :: upsertVisit member score rest

/-- Members ascend, so none is held twice. -/
def Ascending (visits : List Visit) : Prop :=
  visits.Pairwise (·.1 < ·.1)

theorem mem_upsertVisit {member : String} {score : Int} {visits : List Visit} {v : Visit}
    (h : v ∈ upsertVisit member score visits) : v.1 = member ∨ v ∈ visits := by
  induction visits with
  | nil => simp_all [upsertVisit]
  | cons head rest ih =>
    obtain ⟨m, s⟩ := head
    unfold upsertVisit at h
    split at h
    · simp only [List.mem_cons] at h ⊢
      rcases h with h | h | h <;> simp [h]
    · split at h
      · rename_i heq
        simp only [List.mem_cons] at h ⊢
        rcases h with h | h <;> simp [h, heq]
      · simp only [List.mem_cons] at h ⊢
        rcases h with h | h
        · simp [h]
        · rcases ih h with h | h <;> simp [h]

theorem Ascending.upsertVisit {visits : List Visit} (h : Ascending visits) (member : String)
    (score : Int) : Ascending (upsertVisit member score visits) := by
  induction visits with
  | nil => simp [ChainCrawl.upsertVisit, Ascending]
  | cons head rest ih =>
    obtain ⟨m, s⟩ := head
    obtain ⟨hhead, hrest⟩ := List.pairwise_cons.1 h
    unfold ChainCrawl.upsertVisit
    split
    · rename_i hlt
      refine List.pairwise_cons.2 ⟨fun v hv => ?_, h⟩
      rcases List.mem_cons.1 hv with rfl | hv
      · exact hlt
      · exact String.lt_trans hlt (hhead v hv)
    · split
      · exact List.pairwise_cons.2 ⟨hhead, hrest⟩
      · rename_i hnot hne
        refine List.pairwise_cons.2 ⟨fun v hv => ?_, ih hrest⟩
        rcases mem_upsertVisit hv with hv | hv
        · rw [hv]
          have hle : m ≤ member := String.not_lt.1 hnot
          by_cases hlt : m < member
          · exact hlt
          · exact absurd (String.le_antisymm hle (String.not_lt.1 hlt)).symm hne
        · exact hhead v hv

/-- The visits, in ascending order of their members. -/
structure VisitTable where
  visits : List Visit
  ascending : Ascending visits

namespace VisitTable

def empty : VisitTable :=
  ⟨[], .nil⟩

instance : Inhabited VisitTable := ⟨empty⟩

def upsert (s : VisitTable) (member : String) (score : Int) : VisitTable :=
  ⟨upsertVisit member score s.visits, s.ascending.upsertVisit member score⟩

def filter (s : VisitTable) (keep : Visit → Bool) : VisitTable :=
  ⟨s.visits.filter keep, s.ascending.filter keep⟩

/-- The first `limit` members after `after` that are scored at least `least`. -/
def membersAfter (s : VisitTable) (after : Option String) (least : Int) (limit : Nat) :
    List Visit :=
  (s.visits.filter fun visit =>
    (match after with
      | some member => decide (member < visit.1)
      | none => true) && least ≤ visit.2).take limit

/-- Removes every member scored below `least`, and says how many. -/
def dropBelow (s : VisitTable) (least : Int) : Nat × VisitTable :=
  let kept := s.filter fun visit => least ≤ visit.2
  (s.visits.length - kept.visits.length, kept)

def scoreOf? (s : VisitTable) (member : String) : Option Int :=
  (s.visits.find? (·.1 = member)).map (·.2)

/-- Removes a member, and says whether it was there. -/
def erase (s : VisitTable) (member : String) : Bool × VisitTable :=
  ((s.scoreOf? member).isSome, s.filter (·.1 ≠ member))

def size (s : VisitTable) : Nat :=
  s.visits.length

end VisitTable

end ChainCrawl
