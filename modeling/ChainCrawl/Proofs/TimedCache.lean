import ChainCrawl.TimedCache

namespace ChainCrawl.TimedCache

variable {κ ν : Type} [DecidableEq κ]

/-- The value kept under a key, fresh or not. -/
def kept? (c : TimedCache κ ν) (key : κ) : Option ν :=
  (c.entries.find? (·.1 = key)).map (·.2.2)

@[simp]
theorem kept?_empty (lifetime : Nat) (key : κ) :
    (empty lifetime : TimedCache κ ν).kept? key = none := rfl

theorem kept?_erase (c : TimedCache κ ν) (key other : κ) :
    (c.erase key).kept? other = if key = other then none else c.kept? other := by
  simp only [kept?, erase, List.find?_filter]
  split
  · rename_i heq
    subst heq
    exact Option.map_eq_none_iff.2 (List.find?_eq_none.2 fun e _ => by simp)
  · rename_i hne
    congr 2
    funext e
    by_cases heq : e.1 = other
    · simp [heq, Ne.symm hne]
    · simp [heq]

/-- Setting a key changes what is kept under that key only. -/
theorem kept?_insert (c : TimedCache κ ν) (now : Nat) (key : κ) (value : ν) (other : κ) :
    (c.insert now key value).kept? other = if key = other then some value else c.kept? other := by
  by_cases heq : key = other
  · simp [kept?, insert, heq]
  · have h := kept?_erase c key other
    rw [if_neg heq] at h ⊢
    simpa [kept?, insert, heq] using h

/-- Before the lifetime has passed on the clock, every entry is fresh, whenever it was made. -/
theorem get?_of_lt {c : TimedCache κ ν} {now : Nat} (h : now < c.lifetime) (key : κ) :
    c.get? now key = c.kept? key := by
  unfold get? kept?
  cases c.entries.find? (·.1 = key) with
  | none => rfl
  | some entry =>
    obtain ⟨_, made, value⟩ := entry
    have hfresh : c.isFresh now made = true := by
      simp only [isFresh, decide_eq_true_eq]
      omega
    simp [hfresh]

end ChainCrawl.TimedCache
