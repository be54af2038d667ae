import ChainCrawl.Table.Cursor

namespace ChainCrawl.CursorTable

@[simp]
theorem sourceKey_advanced (old : Option Cursor) (c : Cursor) :
    (advanced old c).sourceKey = c.sourceKey := by
  cases old <;> rfl

@[simp]
theorem network_advanced (old : Option Cursor) (c : Cursor) :
    (advanced old c).network = c.network := by
  cases old <;> rfl

/-- A cursor whose position is no lower than the stored one is taken over as it is. -/
theorem advanced_of_le {old : Option Cursor} {c : Cursor}
    (h : ∀ o, old = some o → o.height ≤ c.height) : advanced old c = c := by
  cases old with
  | none => rfl
  | some o =>
    have hmax : max c.height o.height = c.height := Int.max_eq_left (h o rfl)
    rw [advanced, hmax]

theorem find?_empty (key : String) (network : Network) : empty.find? key network = none := rfl

theorem source_of_find? {s : CursorTable} {key : String} {network : Network} {c : Cursor}
    (h : s.find? key network = some c) : c.sourceKey = key ∧ c.network = network := by
  simpa using List.find?_some h

/-- A saved cursor is found under its own source, and no other source is touched. -/
theorem find?_put (s : CursorTable) (c : Cursor) (key : String) (network : Network) :
    (s.put c).find? key network =
      if c.sourceKey = key ∧ c.network = network then some (advanced (s.find? key network) c)
      else s.find? key network := by
  by_cases h : c.sourceKey = key ∧ c.network = network
  · obtain ⟨rfl, rfl⟩ := h
    simp [put, find?]
  · rw [if_neg h]
    simp only [put, find?, List.find?_cons, sourceKey_advanced, network_advanced]
    rw [show (decide (c.sourceKey = key) && decide (c.network = network)) = false by simpa using h]
    simp only [List.find?_filter]
    congr 1
    funext d
    by_cases hd : d.sourceKey = key ∧ d.network = network
    · obtain ⟨rfl, rfl⟩ := hd
      have hne : ¬ d.sourceKey = c.sourceKey ∨ ¬ d.network = c.network :=
        Decidable.not_and_iff_or_not.1 fun heq => h ⟨heq.1.symm, heq.2.symm⟩
      simpa using hne
    · have hfalse : (decide (d.sourceKey = key) && decide (d.network = network)) = false := by
        simpa using hd
      simp [hfalse]

/-- A save under a source leaves it a cursor that is no lower than the one before. -/
theorem le_height_of_put {s : CursorTable} {key : String} {network : Network} {old : Cursor}
    (h : s.find? key network = some old) (c : Cursor) :
    ∃ new, (s.put c).find? key network = some new ∧ old.height ≤ new.height := by
  rw [find?_put, h]
  split
  · exact ⟨_, rfl, Int.le_max_right _ _⟩
  · exact ⟨old, rfl, Int.le_refl _⟩

end ChainCrawl.CursorTable
