import ChainCrawl.Text.Lowercase
import ChainCrawl.Text.Search

namespace ChainCrawl.Text

/-- A text spells words, in small or capital letters. -/
def Mentions (words s : String) : Prop :=
  ∃ before spelled after, s.toList = before ++ spelled ++ after ∧
    spelled.map Char.toLower = words.toList

/-- A text is brought into small letters from its front on. What stands before decides only which
form a final sigma takes. -/
theorem exists_lowercaseFrom_append (passed front rest : List Char) :
    ∃ lowered, lowercaseFrom passed (front ++ rest) =
      lowered ++ lowercaseFrom (front.reverse ++ passed) rest := by
  induction front generalizing passed with
  | nil => exact ⟨[], rfl⟩
  | cons c front ih =>
    obtain ⟨lowered, hlowered⟩ := ih (c :: passed)
    rw [List.cons_append, lowercaseFrom, hlowered, List.reverse_cons, List.append_assoc,
      ← List.append_assoc]
    exact ⟨_, rfl⟩

theorem lowercaseFrom_append_of_ascii {front : List Char} (hascii : ∀ c ∈ front, c.toNat < 0x80)
    (passed rest : List Char) :
    lowercaseFrom passed (front ++ rest) =
      front.map Char.toLower ++ lowercaseFrom (front.reverse ++ passed) rest := by
  induction front generalizing passed with
  | nil => rfl
  | cons c front ih =>
    have hc := hascii c List.mem_cons_self
    have hsigma : c ≠ 'Σ' := by
      rintro rfl
      exact absurd hc (by decide)
    rw [List.cons_append, lowercaseFrom, if_neg hsigma, lowerChar_of_ascii hc,
      ih fun c' hc' => hascii c' (List.mem_cons_of_mem _ hc')]
    simp

/-- A character whose small form is ASCII is ASCII itself, since `Char.toLower` changes no other. -/
theorem toNat_lt_of_toLower {c : Char} (h : c.toLower.toNat < 0x80) : c.toNat < 0x80 := by
  unfold Char.toLower at h
  split at h
  · rename_i hupper
    have hle : c.val.toNat ≤ 90 := hupper.2
    exact Nat.lt_of_le_of_lt hle (by decide)
  · exact h

/-- What a text mentions stands in its small form. -/
theorem occursIn_lowercase_of_mentions {words s : String} (h : Mentions words s)
    (hascii : ∀ c ∈ words.toList, c.toNat < 0x80) :
    occursIn words.toList (lowercase s).toList := by
  obtain ⟨before, spelled, after, hs, hwords⟩ := h
  have hspelled : ∀ c ∈ spelled, c.toNat < 0x80 := by
    intro c hc
    apply toNat_lt_of_toLower
    exact hascii _ (hwords ▸ List.mem_map_of_mem hc)
  obtain ⟨lowered, hlowered⟩ := exists_lowercaseFrom_append [] before (spelled ++ after)
  rw [lowercaseFrom_append_of_ascii hspelled, hwords, ← List.append_assoc, ← List.append_assoc,
    ← hs] at hlowered
  rw [lowercase, String.toList_ofList]
  exact occursIn_iff.2 ⟨_, _, hlowered⟩

end ChainCrawl.Text
