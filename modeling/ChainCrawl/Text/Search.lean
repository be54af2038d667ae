namespace ChainCrawl.Text

/-- The characters of `pattern` stand together somewhere in a text. -/
def occursIn (pattern : List Char) : List Char → Bool
  | [] => pattern.isEmpty
  | c :: rest => pattern.isPrefixOf (c :: rest) || occursIn pattern rest

theorem occursIn_iff {pattern cs : List Char} :
    occursIn pattern cs ↔ ∃ before after, cs = before ++ pattern ++ after := by
  induction cs with
  | nil =>
    constructor
    · intro h
      exact ⟨[], [], by simpa [occursIn] using h⟩
    · rintro ⟨before, after, h⟩
      have hparts := List.append_eq_nil_iff.1 h.symm
      simpa [occursIn] using (List.append_eq_nil_iff.1 hparts.1).2
  | cons c rest ih =>
    simp only [occursIn, Bool.or_eq_true, List.isPrefixOf_iff_prefix, ih]
    constructor
    · rintro (⟨after, h⟩ | ⟨before, after, h⟩)
      · exact ⟨[], after, by simp [h]⟩
      · exact ⟨c :: before, after, by simp [h]⟩
    · rintro ⟨before, after, h⟩
      cases before with
      | nil => exact .inl ⟨after, by simpa using h.symm⟩
      | cons b before =>
        obtain ⟨-, h⟩ := List.cons_eq_cons.1 h
        exact .inr ⟨before, after, by simpa using h⟩

end ChainCrawl.Text
