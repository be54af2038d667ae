import ChainCrawl.Proofs.Text.Decimal
import ChainCrawl.Text.Integer

namespace ChainCrawl.Text

/-- The number that digits to a base write, after what stands before them. -/
def valueFrom (base before : Nat) (digits : List Char) : Nat :=
  digits.foldl (fun n c => n * base + (digit? base c).getD 0) before

variable {base before : Nat} {greatest : Int} {digits : List Char}

theorem lt_of_digit? {c : Char} {d : Nat} (h : digit? base c = some d) : d < base := by
  simpa using (Option.filter_eq_some_iff.1 h).2

theorem le_valueFrom (h : ∀ c ∈ digits, (digit? base c).isSome) :
    before ≤ valueFrom base before digits := by
  induction digits generalizing before with
  | nil => exact Nat.le_refl _
  | cons c rest ih =>
    obtain ⟨d, hd⟩ := Option.isSome_iff_exists.1 (h c List.mem_cons_self)
    have hbase : 0 < base := Nat.lt_of_le_of_lt (Nat.zero_le d) (lt_of_digit? hd)
    have hnext : before ≤ before * base + (digit? base c).getD 0 :=
      Nat.le_add_right_of_le (Nat.le_mul_of_pos_right _ hbase)
    exact Nat.le_trans hnext (ih fun c hc => h c (List.mem_cons_of_mem _ hc))

/-- The bound is looked at after each digit, but it is the whole number that it concerns. -/
theorem readUp_of_digits (h : ∀ c ∈ digits, (digit? base c).isSome)
    (hbefore : (before : Int) ≤ greatest) :
    readUp base greatest before digits =
      if (valueFrom base before digits : Int) ≤ greatest then .ok (valueFrom base before digits)
      else .error .tooLarge := by
  induction digits generalizing before with
  | nil => exact (if_pos hbefore).symm
  | cons c rest ih =>
    obtain ⟨d, hd⟩ := Option.isSome_iff_exists.1 (h c List.mem_cons_self)
    have hrest : ∀ c ∈ rest, (digit? base c).isSome := fun c hc => h c (List.mem_cons_of_mem _ hc)
    have hvalue : valueFrom base before (c :: rest) = valueFrom base (before * base + d) rest := by
      rw [valueFrom, List.foldl_cons, hd]
      rfl
    have hnext : (before : Int) * base + d = ((before * base + d : Nat) : Int) := by
      push_cast
      rfl
    simp only [readUp, hd, hvalue, hnext]
    split
    · rename_i hle
      exact ih hrest hle
    · rename_i hlt
      have hover : ¬ (valueFrom base (before * base + d) rest : Int) ≤ greatest := by
        have hle := @le_valueFrom _ (before * base + d) _ hrest
        omega
      rw [if_neg hover]

theorem readInteger_of_digits {least : Int} (hne : digits ≠ [])
    (h : ∀ c ∈ digits, (digit? base c).isSome) :
    readInteger base least greatest digits = readUp base greatest 0 digits := by
  have hsign : ∀ c, c = '+' ∨ c = '-' → ¬ (digit? base c).isSome := by
    rintro c (rfl | rfl) <;> simp [digit?]
  unfold readInteger
  split
  · exact absurd rfl hne
  · exact absurd (h _ List.mem_cons_self) (hsign _ (.inl rfl))
  · exact absurd (h _ List.mem_cons_self) (hsign _ (.inr rfl))
  · exact absurd (h _ List.mem_cons_self) (hsign _ (.inl rfl))
  · exact absurd (h _ List.mem_cons_self) (hsign _ (.inr rfl))
  · rfl

/-- All characters are digits to a base, and there is at least one. -/
structure AreDigits (base : Nat) (cs : List Char) : Prop where
  ne_nil : cs ≠ []
  digits : ∀ c ∈ cs, (digit? base c).isSome

theorem digits_of_readUp {acc i : Int} (h : readUp base greatest acc digits = .ok i) :
    ∀ c ∈ digits, (digit? base c).isSome := by
  induction digits generalizing acc with
  | nil => exact fun c hc => absurd hc List.not_mem_nil
  | cons first rest ih =>
    unfold readUp at h
    split at h
    · cases h
    · rename_i d hd
      dsimp only at h
      split at h
      · refine List.forall_mem_cons.2 ⟨?_, ih h⟩
        rw [hd]
        rfl
      · cases h

theorem readUp_eq_ok_iff (hbefore : (before : Int) ≤ greatest) {i : Int} :
    readUp base greatest before digits = .ok i ↔
      (∀ c ∈ digits, (digit? base c).isSome) ∧ i = valueFrom base before digits ∧ i ≤ greatest := by
  constructor
  · intro h
    have hdigits := digits_of_readUp h
    rw [readUp_of_digits hdigits hbefore] at h
    split at h
    · rename_i hfits
      cases h
      exact ⟨hdigits, rfl, hfits⟩
    · cases h
  · rintro ⟨hdigits, rfl, hfits⟩
    rw [readUp_of_digits hdigits hbefore, if_pos hfits]

theorem readUp_zero_eq_ok_iff (hgreatest : 0 ≤ greatest) {i : Int} :
    readUp base greatest 0 digits = .ok i ↔
      (∀ c ∈ digits, (digit? base c).isSome) ∧ i = valueFrom base 0 digits ∧ i ≤ greatest := by
  have hbefore : ((0 : Nat) : Int) ≤ greatest := hgreatest
  exact readUp_eq_ok_iff hbefore

/-- Downwards digits are read as upwards, with the bound on the other side of zero. -/
theorem readDown_neg_eq_ok_iff {least acc i : Int} :
    readDown base least (-acc) digits = .ok (-i) ↔ readUp base (-least) acc digits = .ok i := by
  induction digits generalizing acc with
  | nil => simp [readDown, readUp]
  | cons c rest ih =>
    simp only [readDown, readUp]
    cases digit? base c with
    | none => simp
    | some d =>
      have hnext : -acc * base - d = -(acc * base + d) := by ring
      have hbound : least ≤ -(acc * base + d) ↔ acc * base + d ≤ -least := by omega
      simp only [hnext, hbound]
      split
      · exact ih
      · simp

theorem readDown_eq_ok_iff {least i : Int} (hleast : least ≤ 0) :
    readDown base least 0 digits = .ok i ↔
      (∀ c ∈ digits, (digit? base c).isSome) ∧ i = -valueFrom base 0 digits ∧ least ≤ i := by
  have hneg : readDown base least 0 digits = .ok i ↔ readUp base (-least) 0 digits = .ok (-i) := by
    simpa using @readDown_neg_eq_ok_iff base digits least 0 (-i)
  rw [hneg, readUp_zero_eq_ok_iff (by omega)]
  refine and_congr_right fun _ => and_congr ?_ ?_ <;> omega

/-- Bounds on both sides of zero admit either sign, and none. -/
theorem readInteger_eq_ok_iff {least i : Int} {cs : List Char} (hleast : least < 0)
    (hgreatest : 0 ≤ greatest) :
    readInteger base least greatest cs = .ok i ↔ ∃ digits, AreDigits base digits ∧
      ((cs = digits ∨ cs = '+' :: digits) ∧ i = valueFrom base 0 digits ∧ i ≤ greatest ∨
        cs = '-' :: digits ∧ i = -valueFrom base 0 digits ∧ least ≤ i) := by
  constructor
  · intro h
    unfold readInteger at h
    split at h
    · cases h
    · cases h
    · cases h
    · rename_i rest hne
      obtain ⟨hdigits, hvalue⟩ := (readUp_zero_eq_ok_iff hgreatest).1 h
      exact ⟨rest, ⟨fun hnil => hne (by rw [hnil]), hdigits⟩, .inl ⟨.inr rfl, hvalue⟩⟩
    · rename_i rest hne
      rw [if_pos hleast] at h
      obtain ⟨hdigits, hvalue⟩ := (readDown_eq_ok_iff hleast.le).1 h
      exact ⟨rest, ⟨fun hnil => hne (by rw [hnil]), hdigits⟩, .inr ⟨rfl, hvalue⟩⟩
    · rename_i hne _ _ _ _
      obtain ⟨hdigits, hvalue⟩ := (readUp_zero_eq_ok_iff hgreatest).1 h
      exact ⟨cs, ⟨hne, hdigits⟩, .inl ⟨.inl rfl, hvalue⟩⟩
  · rintro ⟨digits, ⟨hne, hdigits⟩, ⟨rfl | rfl, hvalue⟩ | ⟨rfl, hvalue⟩⟩
    · rw [readInteger_of_digits hne hdigits]
      exact (readUp_zero_eq_ok_iff hgreatest).2 ⟨hdigits, hvalue⟩
    · obtain ⟨first, rest, rfl⟩ := List.exists_cons_of_ne_nil hne
      exact (readUp_zero_eq_ok_iff hgreatest).2 ⟨hdigits, hvalue⟩
    · obtain ⟨first, rest, rfl⟩ := List.exists_cons_of_ne_nil hne
      rw [readInteger, if_pos hleast]
      · exact (readDown_eq_ok_iff hleast.le).2 ⟨hdigits, hvalue⟩
      · exact nofun

theorem digit?_ten_of_isDigit {c : Char} (h : c.isDigit = true) :
    digit? 10 c = some (c.toNat - '0'.toNat) := by
  have hbounds : ('0' ≤ c && c ≤ '9') = true := by
    simpa [Char.isDigit, Char.le_def] using h
  simp only [digit?, hbounds, if_true, Option.filter, decide_eq_true (digit_lt h)]

theorem valueFrom_ten (h : AllDigits digits) :
    valueFrom 10 before digits = Nat.ofDigitChars 10 digits before := by
  induction digits generalizing before with
  | nil => rfl
  | cons c rest ih =>
    have hc := digit?_ten_of_isDigit (h c List.mem_cons_self)
    rw [Nat.ofDigitChars_cons, ← ih h.tail, valueFrom, List.foldl_cons, hc, Nat.mul_comm 10]
    rfl

/-- No premise on the number of digits is needed: zeros in front do no harm. -/
theorem uint32?_of_digits {s : String} (hne : s.toList ≠ []) (h : AllDigits s.toList) :
    uint32? s = if (decimal s.toList : Int) ≤ Word.maxUInt32 then some (decimal s.toList)
      else none := by
  have hdigits : ∀ c ∈ s.toList, (digit? 10 c).isSome := by
    intro c hc
    rw [digit?_ten_of_isDigit (h c hc)]
    rfl
  have hvalue : valueFrom 10 0 s.toList = decimal s.toList := valueFrom_ten h
  have hread : readInteger 10 0 Word.maxUInt32 s.toList =
      if (decimal s.toList : Int) ≤ Word.maxUInt32 then .ok (decimal s.toList)
      else .error .tooLarge := by
    rw [readInteger_of_digits hne hdigits, ← hvalue]
    exact readUp_of_digits hdigits (by decide)
  rw [uint32?, hread]
  split <;> rfl

end ChainCrawl.Text
