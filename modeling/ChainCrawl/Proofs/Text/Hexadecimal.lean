import ChainCrawl.Proofs.Text.Integer

namespace ChainCrawl.Text

/-- A hexadecimal digit, as a small or as a capital letter above nine. -/
def IsHexDigit (c : Char) : Prop :=
  c ∈ "0123456789abcdefABCDEF".toList

instance (c : Char) : Decidable (IsHexDigit c) :=
  inferInstanceAs (Decidable (_ ∈ _))

/-- The number that a hexadecimal digit stands for: its place among all digits. -/
def hexDigit (c : Char) : Nat :=
  "0123456789abcdef".toList.idxOf c.toLower

/-- The number that hexadecimal digits write. -/
def hexadecimal (cs : List Char) : Nat :=
  cs.foldl (fun n c => n * 16 + hexDigit c) 0

/-- All characters are hexadecimal digits, and there is at least one. -/
structure AreHexDigits (cs : List Char) : Prop where
  ne_nil : cs ≠ []
  digits : ∀ c ∈ cs, IsHexDigit c

instance (cs : List Char) : Decidable (AreHexDigits cs) :=
  decidable_of_iff (cs ≠ [] ∧ cs.all (IsHexDigit ·) = true)
    ⟨fun h => ⟨h.1, by simpa using h.2⟩, fun h => ⟨h.ne_nil, by simpa using h.digits⟩⟩

variable {c : Char} {cs : List Char}

theorem digit?_of_isHexDigit (h : IsHexDigit c) : digit? 16 c = some (hexDigit c) := by
  have hall : "0123456789abcdefABCDEF".toList.map (digit? 16) =
      "0123456789abcdefABCDEF".toList.map fun c => some (hexDigit c) := by decide
  exact List.map_inj_left.1 hall c h

/-- What holds of the characters of a range, counted by their code points, holds of every character
between its ends. -/
theorem of_between {P : Char → Prop} {first last : Char} (h : (first ≤ c && c ≤ last) = true)
    (hall : ∀ n ∈ List.range' first.toNat (last.toNat + 1 - first.toNat), P (Char.ofNat n)) :
    P c := by
  simp only [Bool.and_eq_true, decide_eq_true_eq] at h
  have hfirst : first.toNat ≤ c.toNat := h.1
  have hlast : c.toNat ≤ last.toNat := h.2
  have hchar := hall c.toNat (List.mem_range'_1.2 ⟨hfirst, by omega⟩)
  rwa [Char.ofNat_toNat] at hchar

theorem isHexDigit_of_digit? (h : (digit? 16 c).isSome) : IsHexDigit c := by
  unfold digit? at h
  split at h
  · rename_i hbetween
    exact of_between hbetween (by decide)
  · split at h
    · rename_i hbetween
      exact of_between hbetween (by decide)
    · split at h
      · rename_i hbetween
        exact of_between hbetween (by decide)
      · cases h

theorem areDigits_sixteen_iff : AreDigits 16 cs ↔ AreHexDigits cs := by
  constructor
  · rintro ⟨hne, hdigits⟩
    exact ⟨hne, fun c hc => isHexDigit_of_digit? (hdigits c hc)⟩
  · rintro ⟨hne, hdigits⟩
    exact ⟨hne, fun c hc => Option.isSome_of_eq_some (digit?_of_isHexDigit (hdigits c hc))⟩

theorem valueFrom_sixteen {before : Nat} (h : ∀ c ∈ cs, IsHexDigit c) :
    valueFrom 16 before cs = cs.foldl (fun n c => n * 16 + hexDigit c) before := by
  induction cs generalizing before with
  | nil => rfl
  | cons c rest ih =>
    obtain ⟨hc, hrest⟩ := List.forall_mem_cons.1 h
    rw [valueFrom, List.foldl_cons, digit?_of_isHexDigit hc]
    exact ih hrest

theorem hexadecimal_append_singleton (cs : List Char) (c : Char) :
    hexadecimal (cs ++ [c]) = hexadecimal cs * 16 + hexDigit c := by
  rw [hexadecimal, List.foldl_append]
  rfl

theorem hexDigit_digitChar {d : Nat} (h : d < 16) :
    hexDigit d.digitChar = d ∧ IsHexDigit d.digitChar := by
  have hall : ∀ d < 16, hexDigit (Nat.digitChar d) = d ∧ IsHexDigit (Nat.digitChar d) := by decide
  exact hall d h

/-- The digits that a number is written with are hexadecimal ones and write that number. -/
theorem hexadecimal_toDigits (n : Nat) :
    hexadecimal (Nat.toDigits 16 n) = n ∧ AreHexDigits (Nat.toDigits 16 n) := by
  induction n using Nat.strong_induction_on with
  | _ n ih =>
    by_cases hsmall : n < 16
    · obtain ⟨hvalue, hdigit⟩ := hexDigit_digitChar hsmall
      rw [Nat.toDigits_of_lt_base hsmall]
      refine ⟨?_, by simp, by simpa using hdigit⟩
      simpa [hexadecimal] using hvalue
    · have hlarge : 16 ≤ n := Nat.not_lt.1 hsmall
      obtain ⟨hvalue, -, hdigits⟩ := ih (n / 16) (Nat.div_lt_self (by omega) (by decide))
      obtain ⟨hlast, hdigit⟩ := hexDigit_digitChar (Nat.mod_lt n (by decide : 0 < 16))
      rw [Nat.toDigits_of_base_le (by decide) hlarge]
      refine ⟨?_, by simp, ?_⟩
      · rw [hexadecimal_append_singleton, hvalue, hlast]
        omega
      · intro c hc
        obtain hc | hc := List.mem_append.1 hc
        · exact hdigits c hc
        · obtain rfl := List.mem_singleton.1 hc
          exact hdigit

end ChainCrawl.Text
