import ChainCrawl.Text.Scan
import Mathlib.Data.Char
import Mathlib.Data.List.Induction
import Mathlib.Tactic.Ring

namespace ChainCrawl.Text

/-- All characters are decimal digits. -/
def AllDigits (cs : List Char) : Prop :=
  ∀ c ∈ cs, c.isDigit = true

instance (cs : List Char) : Decidable (AllDigits cs) :=
  List.decidableBAll (fun c : Char => c.isDigit = true) cs

variable {c : Char} {xs ys : List Char}

theorem AllDigits.tail (h : AllDigits (c :: xs)) : AllDigits xs :=
  fun x hx => h x (List.mem_cons_of_mem _ hx)

theorem AllDigits.of_subset (h : AllDigits xs) (hsub : ys ⊆ xs) : AllDigits ys :=
  fun x hx => h x (hsub hx)

theorem AllDigits.replicate_zero (n : Nat) : AllDigits (List.replicate n '0') := by
  intro c hc
  rw [List.eq_of_mem_replicate hc]
  rfl

theorem digit_lt (h : c.isDigit = true) : c.toNat - '0'.toNat < 10 := by
  obtain ⟨-, hgreatest⟩ : 48 ≤ c.toNat ∧ c.toNat ≤ 57 := Char.isDigit_iff_toNat.1 h
  have hzero : '0'.toNat = 48 := rfl
  omega

theorem eq_of_digit_eq {c' : Char} (h : c.isDigit = true) (h' : c'.isDigit = true)
    (heq : c.toNat - '0'.toNat = c'.toNat - '0'.toNat) : c = c' := by
  obtain ⟨hleast, -⟩ : 48 ≤ c.toNat ∧ c.toNat ≤ 57 := Char.isDigit_iff_toNat.1 h
  obtain ⟨hleast', -⟩ : 48 ≤ c'.toNat ∧ c'.toNat ≤ 57 := Char.isDigit_iff_toNat.1 h'
  have hzero : '0'.toNat = 48 := rfl
  exact Char.toNat_inj.1 (by omega)

/-- Only the digit zero counts for nothing. -/
theorem digit_pos (h : c.isDigit = true) (hzero : c ≠ '0') : 0 < c.toNat - '0'.toNat :=
  Nat.pos_of_ne_zero fun heq => hzero (eq_of_digit_eq h rfl heq)

theorem decimal_append (xs ys : List Char) :
    decimal (xs ++ ys) = decimal xs * 10 ^ ys.length + decimal ys := by
  rw [decimal, Nat.ofDigitChars_append, Nat.ofDigitChars_eq_ofDigitChars_zero, Nat.mul_comm]
  rfl

theorem decimal_singleton (c : Char) : decimal [c] = c.toNat - '0'.toNat := by
  simp [decimal, Nat.ofDigitChars_cons]

theorem decimal_cons (c : Char) (xs : List Char) :
    decimal (c :: xs) = (c.toNat - '0'.toNat) * 10 ^ xs.length + decimal xs := by
  rw [← List.singleton_append, decimal_append, decimal_singleton]

theorem decimal_replicate_zero (n : Nat) : decimal (List.replicate n '0') = 0 := by
  rw [decimal, Nat.ofDigitChars_replicate_zero, Nat.mul_zero]

theorem decimal_lt (h : AllDigits xs) : decimal xs < 10 ^ xs.length := by
  induction xs with
  | nil => exact Nat.one_pos
  | cons c rest ih =>
    have hdigit := digit_lt (h c List.mem_cons_self)
    rw [decimal_cons, List.length_cons, Nat.pow_succ]
    calc (c.toNat - '0'.toNat) * 10 ^ rest.length + decimal rest
        < (c.toNat - '0'.toNat) * 10 ^ rest.length + 10 ^ rest.length :=
          Nat.add_lt_add_left (ih h.tail) _
      _ = (c.toNat - '0'.toNat + 1) * 10 ^ rest.length := by ring
      _ ≤ 10 * 10 ^ rest.length := Nat.mul_le_mul_right _ hdigit
      _ = 10 ^ rest.length * 10 := Nat.mul_comm _ _

/-- A number with a digit in front that is not zero has as many digits as are written. -/
theorem pow_le_decimal_cons (h : c.isDigit = true) (hzero : c ≠ '0') :
    10 ^ xs.length ≤ decimal (c :: xs) := by
  rw [decimal_cons]
  exact Nat.le_add_right_of_le (Nat.le_mul_of_pos_left _ (digit_pos h hzero))

/-- Two numbers in front of as many digits as their multiplier has zeros are told apart. -/
theorem decimal_append_inj {xs' ys' : List Char} (hys : AllDigits ys) (hys' : AllDigits ys')
    (hlength : ys.length = ys'.length) (h : decimal (xs ++ ys) = decimal (xs' ++ ys')) :
    decimal xs = decimal xs' ∧ decimal ys = decimal ys' := by
  have hlt := decimal_lt hys
  have hlt' := decimal_lt hys'
  rw [decimal_append, decimal_append, ← hlength] at h
  rw [← hlength] at hlt'
  have hquotient := congrArg (· / 10 ^ ys.length) h
  have hremainder := congrArg (· % 10 ^ ys.length) h
  simp only [Nat.mul_comm _ (10 ^ ys.length), Nat.mul_add_div (Nat.pow_pos (by decide : 0 < 10)),
    Nat.mul_add_mod, Nat.div_eq_of_lt hlt, Nat.div_eq_of_lt hlt', Nat.mod_eq_of_lt hlt,
    Nat.mod_eq_of_lt hlt', Nat.add_zero] at hquotient hremainder
  exact ⟨hquotient, hremainder⟩

/-- Digits of one length that write the same number are the same. -/
theorem eq_of_decimal_eq (hxs : AllDigits xs) (hys : AllDigits ys)
    (hlength : xs.length = ys.length) (h : decimal xs = decimal ys) : xs = ys := by
  induction xs generalizing ys with
  | nil => exact (List.length_eq_zero_iff.1 hlength.symm).symm
  | cons x xs ih =>
    cases ys with
    | nil => cases hlength
    | cons y ys =>
      have hrest : xs.length = ys.length := Nat.succ.inj hlength
      have hparts : decimal [x] = decimal [y] ∧ decimal xs = decimal ys :=
        decimal_append_inj hxs.tail hys.tail hrest h
      obtain ⟨hfirst, hdecimal⟩ := hparts
      rw [decimal_singleton, decimal_singleton] at hfirst
      obtain rfl := eq_of_digit_eq (hxs x List.mem_cons_self) (hys y List.mem_cons_self) hfirst
      rw [ih hxs.tail hys.tail hrest hdecimal]

end ChainCrawl.Text
