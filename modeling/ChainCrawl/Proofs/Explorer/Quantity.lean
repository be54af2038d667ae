import ChainCrawl.Explorer.Client
import ChainCrawl.Proofs.Text.Hexadecimal

namespace ChainCrawl.Explorer

open Text (AreHexDigits hexadecimal)

/-- A quantity of a remote procedure call writes this number: in hexadecimal digits after `0x`, of
which there is at least one, and without a sign. -/
def IsQuantity (s : String) (n : Nat) : Prop :=
  ∃ digits, AreHexDigits digits ∧ s.toList = '0' :: 'x' :: digits ∧ hexadecimal digits = n

/-- A sign stands where a quantity has its first digit. -/
def HasSign (s : String) : Prop :=
  ∃ rest, s.toList = '0' :: 'x' :: '+' :: rest ∨ s.toList = '0' :: 'x' :: '-' :: rest

variable {s : String} {i : Int}

/-- A text writes no two quantities. -/
theorem IsQuantity.unique {n m : Nat} (h : IsQuantity s n) (h' : IsQuantity s m) : n = m := by
  obtain ⟨digits, -, hs, rfl⟩ := h
  obtain ⟨digits', -, hs', rfl⟩ := h'
  obtain rfl : digits = digits' := by simpa [hs] using hs'
  rfl

theorem readQuantity_eq_ok_iff_readInteger :
    readQuantity s = .ok i ↔ ∃ cs, s.toList = '0' :: 'x' :: cs ∧
      Text.readInteger 16 Word.minInt64 Word.maxInt64 cs = .ok i := by
  unfold readQuantity
  split
  · rename_i cs hs
    rw [hs]
    cases hread : Text.readInteger 16 Word.minInt64 Word.maxInt64 cs <;>
      simp [Except.mapError, hread]
  · rename_i hnot
    constructor
    · intro h
      cases h
    · rintro ⟨cs, hs, -⟩
      exact absurd hs (hnot cs)

/-- One sign may stand in front of the digits, and a minus sign makes the number negative. -/
theorem readQuantity_eq_ok_iff :
    readQuantity s = .ok i ↔ ∃ digits, AreHexDigits digits ∧
      ((s.toList = '0' :: 'x' :: digits ∨ s.toList = '0' :: 'x' :: '+' :: digits) ∧
          i = hexadecimal digits ∧ i ≤ Word.maxInt64 ∨
        s.toList = '0' :: 'x' :: '-' :: digits ∧ i = -hexadecimal digits ∧ Word.minInt64 ≤ i) := by
  have hvalue : ∀ {digits : List Char}, AreHexDigits digits →
      Text.valueFrom 16 0 digits = hexadecimal digits :=
    fun hdigits => Text.valueFrom_sixteen hdigits.digits
  rw [readQuantity_eq_ok_iff_readInteger]
  constructor
  · rintro ⟨cs, hs, hread⟩
    obtain ⟨digits, hdigits, hcases⟩ :=
      (Text.readInteger_eq_ok_iff (by decide) (by decide)).1 hread
    have hhex := Text.areDigits_sixteen_iff.1 hdigits
    rw [hvalue hhex] at hcases
    refine ⟨digits, hhex, hcases.imp ?_ ?_⟩
    · exact And.imp_left (Or.imp (fun h => h ▸ hs) fun h => h ▸ hs)
    · exact And.imp_left fun h => h ▸ hs
  · rintro ⟨digits, hhex, hcases⟩
    have hread : ∀ cs, (cs = digits ∨ cs = '+' :: digits) ∧
          i = Text.valueFrom 16 0 digits ∧ i ≤ Word.maxInt64 ∨
        cs = '-' :: digits ∧ i = -Text.valueFrom 16 0 digits ∧ Word.minInt64 ≤ i →
        Text.readInteger 16 Word.minInt64 Word.maxInt64 cs = .ok i := fun cs h =>
      (Text.readInteger_eq_ok_iff (by decide) (by decide)).2
        ⟨digits, Text.areDigits_sixteen_iff.2 hhex, h⟩
    rw [hvalue hhex] at hread
    obtain ⟨hs | hs, hbound⟩ | ⟨hs, hbound⟩ := hcases
    · exact ⟨_, hs, hread _ (.inl ⟨.inl rfl, hbound⟩)⟩
    · exact ⟨_, hs, hread _ (.inl ⟨.inr rfl, hbound⟩)⟩
    · exact ⟨_, hs, hread _ (.inr ⟨rfl, hbound⟩)⟩

/-- Where no sign stands, nothing but quantities is read. -/
theorem readQuantity_eq_ok_iff_of_not_hasSign (hsign : ¬ HasSign s) :
    readQuantity s = .ok i ↔ ∃ n : Nat, IsQuantity s n ∧ i = n ∧ (n : Int) ≤ Word.maxInt64 := by
  rw [readQuantity_eq_ok_iff]
  constructor
  · rintro ⟨digits, hdigits, ⟨hs | hs, rfl, hbound⟩ | ⟨hs, -⟩⟩
    · exact ⟨_, ⟨digits, hdigits, hs, rfl⟩, rfl, hbound⟩
    · exact absurd ⟨digits, .inl hs⟩ hsign
    · exact absurd ⟨digits, .inr hs⟩ hsign
  · rintro ⟨_, ⟨digits, hdigits, hs, rfl⟩, rfl, hbound⟩
    exact ⟨digits, hdigits, .inl ⟨.inl hs, rfl, hbound⟩⟩

theorem readQuantity_toDigits (n : Nat) (hbound : (n : Int) ≤ Word.maxInt64) :
    readQuantity (String.ofList ('0' :: 'x' :: Nat.toDigits 16 n)) = .ok n := by
  obtain ⟨hvalue, hdigits⟩ := Text.hexadecimal_toDigits n
  refine readQuantity_eq_ok_iff.2 ⟨_, hdigits, .inl ⟨.inl String.toList_ofList, ?_, hbound⟩⟩
  rw [hvalue]

/-- What is read as a quantity, for every text: hexadecimal digits after `0x`, in small or capital
letters and with any zeros in front, or the same after one sign, where the number fits into a
machine word. Where no sign stands these are the quantities of a remote procedure call and no other
texts, and every height that a machine word holds is read from its hexadecimal digits. -/
theorem quantities_read (s : String) (i : Int) :
    (readQuantity s = .ok i ↔ ∃ digits, AreHexDigits digits ∧
      ((s.toList = '0' :: 'x' :: digits ∨ s.toList = '0' :: 'x' :: '+' :: digits) ∧
          i = hexadecimal digits ∧ i ≤ Word.maxInt64 ∨
        s.toList = '0' :: 'x' :: '-' :: digits ∧ i = -hexadecimal digits ∧ Word.minInt64 ≤ i)) ∧
    (¬ HasSign s → (readQuantity s = .ok i ↔
      ∃ n : Nat, IsQuantity s n ∧ i = n ∧ (n : Int) ≤ Word.maxInt64)) ∧
    ∀ n : Nat, (n : Int) ≤ Word.maxInt64 →
      readQuantity (String.ofList ('0' :: 'x' :: Nat.toDigits 16 n)) = .ok n :=
  ⟨readQuantity_eq_ok_iff, readQuantity_eq_ok_iff_of_not_hasSign, readQuantity_toDigits⟩

/-- The greatest height that a machine word holds, in both kinds of letters and with a zero in
front, and the least one that it does not hold. -/
theorem quantities_read_sample :
    ¬ HasSign "0x07fffFFFFffffFFFF" ∧ IsQuantity "0x07fffFFFFffffFFFF" 9223372036854775807 ∧
      readQuantity "0x07fffFFFFffffFFFF" = .ok 9223372036854775807 ∧
      ¬ HasSign "0x8000000000000000" ∧ IsQuantity "0x8000000000000000" 9223372036854775808 ∧
      ∀ i, readQuantity "0x8000000000000000" ≠ .ok i := by
  have hfits : ¬ HasSign "0x07fffFFFFffffFFFF" := by
    rintro ⟨rest, h | h⟩ <;> simp at h
  have hover : ¬ HasSign "0x8000000000000000" := by
    rintro ⟨rest, h | h⟩ <;> simp at h
  have hgreatest : IsQuantity "0x07fffFFFFffffFFFF" 9223372036854775807 :=
    ⟨_, by decide, rfl, by decide⟩
  have hnext : IsQuantity "0x8000000000000000" 9223372036854775808 :=
    ⟨_, by decide, rfl, by decide⟩
  refine ⟨hfits, hgreatest, ((quantities_read _ _).2.1 hfits).2 ⟨_, hgreatest, rfl, by decide⟩,
    hover, hnext, fun i hread => ?_⟩
  obtain ⟨n, hn, -, hbound⟩ := ((quantities_read _ i).2.1 hover).1 hread
  obtain rfl : n = 9223372036854775808 := hn.unique hnext
  exact absurd hbound (by decide)

/-- A minus sign after `0x`: a text that is no quantity is read as one, and the height that the
explorer is said to have is below zero. -/
theorem negative_height_read :
    readQuantity "0x-5" = .ok (-5) ∧ (∀ n, ¬ IsQuantity "0x-5" n) ∧
      readQuantity "0x+5" = .ok 5 ∧ (∀ n, ¬ IsQuantity "0x+5" n) ∧
      Client.readHeight (.obj [("result", .str "0x-5")]) = .ok (-5) := by
  have hnone : ∀ {sign : Char} {s : String}, s.toList = ['0', 'x', sign, '5'] →
      ¬ Text.IsHexDigit sign → ∀ n, ¬ IsQuantity s n := by
    rintro sign s hs hsign n ⟨digits, hdigits, hwritten, -⟩
    obtain rfl : digits = [sign, '5'] := by simpa [hs] using hwritten.symm
    exact hsign (hdigits.digits sign List.mem_cons_self)
  exact ⟨rfl, hnone rfl (by decide), rfl, hnone rfl (by decide), rfl⟩

end ChainCrawl.Explorer
