import ChainCrawl.Explorer.Amount
import ChainCrawl.Proofs.Text.Decimal
import ChainCrawl.Proofs.Text.Scan
import Mathlib.Algebra.Field.Rat
import Mathlib.Tactic.FieldSimp
import Mathlib.Tactic.NormNum

namespace ChainCrawl.Explorer

open Text (AllDigits StopsAt decimal)

/-- The number that a text with or without a point writes. -/
def amountOf (text : String) : ℚ :=
  let whole := text.toList.takeWhile (· ≠ '.')
  let fraction := (text.toList.dropWhile (· ≠ '.')).drop 1
  decimal whole + decimal fraction / 10 ^ fraction.length

/-- A whole number without zeros in front that say nothing. -/
structure IsWhole (cs : List Char) : Prop where
  digits : AllDigits cs
  ne_nil : cs ≠ []
  zero : cs.head? = some '0' → cs = ['0']

/-- The digits after a point, at most so many and without zeros at the end that say nothing. -/
structure IsFraction (most : Nat) (cs : List Char) : Prop where
  digits : AllDigits cs
  length_le : cs.length ≤ most
  last : cs.getLast? ≠ some '0'

/-- The text of a whole number, with a point and a fraction if there is one. -/
def written (whole fraction : List Char) : List Char :=
  if fraction.isEmpty then whole else whole ++ '.' :: fraction

/-- The text is a whole number, or one with a point and at most so many digits behind it. -/
def IsAmount (most : Nat) (text : String) : Prop :=
  ∃ whole fraction, IsWhole whole ∧ IsFraction most fraction ∧
    text.toList = written whole fraction

/-- The text is a number of base units. -/
def IsUnits (value : String) : Prop :=
  value.toList ≠ [] ∧ AllDigits value.toList

variable {whole fraction cs : List Char} {most decimals : Nat} {value text : String}

theorem ne_point_of_isDigit {c : Char} (h : c.isDigit = true) : (c ≠ '.' : Bool) = true := by
  simp only [ne_eq, decide_not, Bool.not_eq_true', decide_eq_false_iff_not]
  rintro rfl
  cases h

theorem amountOf_written (hwhole : AllDigits whole)
    (htext : text.toList = written whole fraction) :
    amountOf text = decimal (whole ++ fraction) / 10 ^ fraction.length := by
  have hbefore : ∀ c ∈ whole, (c ≠ '.' : Bool) = true :=
    fun c hc => ne_point_of_isDigit (hwhole c hc)
  have hsum : (decimal (whole ++ fraction) : ℚ) / 10 ^ fraction.length =
      decimal whole + decimal fraction / 10 ^ fraction.length := by
    rw [Text.decimal_append]
    push_cast
    field_simp
  rw [hsum]
  unfold amountOf
  rw [htext, written]
  cases fraction with
  | nil =>
    have htake := Text.takeWhile_append_of_stopsAt hbefore .nil
    have hdrop := Text.dropWhile_append_of_stopsAt hbefore .nil
    rw [List.append_nil] at htake hdrop
    simp only [List.isEmpty_nil, if_true, htake, hdrop, List.drop_nil]
  | cons c rest =>
    have hpoint : StopsAt (fun c => (c ≠ '.' : Bool)) ('.' :: c :: rest) := .cons (by simp)
    simp only [List.isEmpty_cons, Bool.false_eq_true, if_false,
      Text.takeWhile_append_of_stopsAt hbefore hpoint,
      Text.dropWhile_append_of_stopsAt hbefore hpoint, List.drop_one, List.tail_cons]

/-- A whole number is known from its value. -/
theorem IsWhole.eq_of_decimal_eq (h : IsWhole whole) (hcs : IsWhole cs)
    (heq : decimal whole = decimal cs) : whole = cs := by
  have hle {xs ys : List Char} (hxs : IsWhole xs) (hys : IsWhole ys)
      (heq : decimal xs = decimal ys) : ys.length ≤ xs.length := by
    by_contra hlt
    have hpos := List.length_pos_of_ne_nil hxs.ne_nil
    obtain ⟨c, rest, rfl⟩ := List.exists_cons_of_ne_nil hys.ne_nil
    have hzero : c ≠ '0' := by
      rintro rfl
      have hone := congrArg List.length (hys.zero rfl)
      rw [List.length_singleton] at hone
      omega
    have hgreat : 10 ^ rest.length ≤ decimal (c :: rest) :=
      Text.pow_le_decimal_cons (hys.digits c List.mem_cons_self) hzero
    have hsmall := Text.decimal_lt hxs.digits
    have hpow : 10 ^ xs.length ≤ 10 ^ rest.length := by
      apply Nat.pow_le_pow_right (by decide)
      rw [List.length_cons] at hlt
      omega
    omega
  exact Text.eq_of_decimal_eq h.digits hcs.digits
    (Nat.le_antisymm (hle hcs h heq.symm) (hle h hcs heq)) heq

/-- A last digit that is not zero shows in the remainder. -/
theorem IsFraction.mod_ten_ne_zero (h : IsFraction most fraction) (hne : fraction ≠ [])
    (whole : List Char) : decimal (whole ++ fraction) % 10 ≠ 0 := by
  obtain ⟨front, c, rfl⟩ := (List.eq_nil_or_concat' fraction).resolve_left hne
  have hzero : c ≠ '0' := by
    rintro rfl
    exact h.last (by simp)
  have hpos := Text.digit_pos (h.digits c (by simp)) hzero
  have hlt := Text.digit_lt (h.digits c (by simp))
  rw [← List.append_assoc, Text.decimal_append, Text.decimal_singleton, List.length_singleton]
  omega

/-- The same amount has no more digits behind the point in one text than in another. -/
theorem IsFraction.length_le_of_eq {more : Nat} {whole' fraction' : List Char}
    (h' : IsFraction more fraction')
    (heq : decimal (whole ++ fraction) * 10 ^ fraction'.length =
      decimal (whole' ++ fraction') * 10 ^ fraction.length) :
    fraction'.length ≤ fraction.length := by
  by_contra hlt
  obtain ⟨n, hn⟩ := Nat.exists_eq_add_of_lt (Nat.lt_of_not_le hlt)
  have hne : fraction' ≠ [] := by
    rintro rfl
    simp at hn
  have hten : decimal (whole' ++ fraction') = decimal (whole ++ fraction) * 10 ^ n * 10 := by
    apply Nat.eq_of_mul_eq_mul_right (Nat.pow_pos (by decide : 0 < 10))
    rw [← heq, hn]
    ring
  apply h'.mod_ten_ne_zero hne whole'
  rw [hten, Nat.mul_mod_left]

/-- An amount has one text only. -/
theorem IsAmount.eq_of_amountOf_eq {more : Nat} {text' : String} (h : IsAmount most text)
    (h' : IsAmount more text') (heq : amountOf text = amountOf text') : text = text' := by
  obtain ⟨whole, fraction, hwhole, hfraction, htext⟩ := h
  obtain ⟨whole', fraction', hwhole', hfraction', htext'⟩ := h'
  have hcross : decimal (whole ++ fraction) * 10 ^ fraction'.length =
      decimal (whole' ++ fraction') * 10 ^ fraction.length := by
    rw [amountOf_written hwhole.digits htext, amountOf_written hwhole'.digits htext',
      div_eq_div_iff (by positivity) (by positivity)] at heq
    exact_mod_cast heq
  have hlength : fraction.length = fraction'.length :=
    Nat.le_antisymm (hfraction.length_le_of_eq hcross.symm) (hfraction'.length_le_of_eq hcross)
  rw [hlength] at hcross
  have hdigits := Nat.eq_of_mul_eq_mul_right (Nat.pow_pos (by decide : 0 < 10)) hcross
  obtain ⟨hleft, hright⟩ :=
    Text.decimal_append_inj hfraction.digits hfraction'.digits hlength hdigits
  apply String.toList_inj.1
  rw [htext, htext', hwhole.eq_of_decimal_eq hwhole' hleft,
    Text.eq_of_decimal_eq hfraction.digits hfraction'.digits hlength hright]

theorem exists_eq_append_dropLeadingZeros (cs : List Char) :
    ∃ n, cs = List.replicate n '0' ++ dropLeadingZeros cs := by
  induction cs with
  | nil => exact ⟨0, rfl⟩
  | cons c rest ih =>
    by_cases hc : c = '0'
    · subst hc
      obtain ⟨n, hn⟩ := ih
      refine ⟨n + 1, ?_⟩
      rw [List.replicate_succ, List.cons_append, dropLeadingZeros, List.dropWhile_cons_of_pos rfl]
      exact congrArg _ hn
    · refine ⟨0, ?_⟩
      rw [dropLeadingZeros, List.dropWhile_cons_of_neg (by simpa using hc)]
      rfl

theorem head?_dropLeadingZeros (cs : List Char) : (dropLeadingZeros cs).head? ≠ some '0' := by
  intro h
  have hnot := List.head?_dropWhile_not (fun c : Char => (c = '0' : Bool)) cs
  rw [← dropLeadingZeros, h] at hnot
  cases hnot

theorem exists_eq_dropTrailingZeros_append (cs : List Char) :
    ∃ n, cs = dropTrailingZeros cs ++ List.replicate n '0' := by
  obtain ⟨n, hn⟩ := exists_eq_append_dropLeadingZeros cs.reverse
  refine ⟨n, ?_⟩
  have hreverse := congrArg List.reverse hn
  rwa [List.reverse_reverse, List.reverse_append, List.reverse_replicate] at hreverse

theorem isFraction_dropTrailingZeros (h : AllDigits cs) (hlength : cs.length ≤ most) :
    IsFraction most (dropTrailingZeros cs) := by
  obtain ⟨n, hn⟩ := exists_eq_dropTrailingZeros_append cs
  refine ⟨?_, ?_, ?_⟩
  · apply h.of_subset
    intro c hc
    rw [hn]
    exact List.mem_append_left _ hc
  · have hsum := congrArg List.length hn
    rw [List.length_append] at hsum
    omega
  · rw [dropTrailingZeros, List.getLast?_reverse]
    exact head?_dropLeadingZeros _

theorem decimal_padLeft (width : Nat) (cs : List Char) :
    decimal (padLeft width (dropLeadingZeros cs)) = decimal cs := by
  obtain ⟨n, hn⟩ := exists_eq_append_dropLeadingZeros cs
  rw [padLeft, Text.decimal_append, Text.decimal_replicate_zero]
  conv_rhs => rw [hn, Text.decimal_append, Text.decimal_replicate_zero]

theorem allDigits_padLeft (width : Nat) (h : AllDigits cs) :
    AllDigits (padLeft width (dropLeadingZeros cs)) := by
  intro c hc
  obtain hc | hc := List.mem_append.1 hc
  · exact AllDigits.replicate_zero _ c hc
  · exact h c ((List.dropWhile_sublist _).subset hc)

/-- Before as many digits as are cut off from a padded number stands a whole one. -/
theorem isWhole_take_padLeft (decimals : Nat) (h : AllDigits cs) :
    IsWhole ((padLeft (decimals + 1) (dropLeadingZeros cs)).take
      ((padLeft (decimals + 1) (dropLeadingZeros cs)).length - decimals)) := by
  have hhead := head?_dropLeadingZeros cs
  have hdigits := allDigits_padLeft (decimals + 1) h
  generalize dropLeadingZeros cs = core at hhead hdigits ⊢
  by_cases hshort : core.length ≤ decimals
  · obtain ⟨n, hn⟩ : ∃ n, decimals + 1 - core.length = n + 1 := ⟨decimals - core.length, by omega⟩
    have hlength : (padLeft (decimals + 1) core).length - decimals = 1 := by
      rw [padLeft, List.length_append, List.length_replicate]
      omega
    have hzero : (padLeft (decimals + 1) core).take 1 = ['0'] := by
      rw [padLeft, hn, List.replicate_succ]
      rfl
    rw [hlength, hzero]
    exact ⟨.replicate_zero 1, by simp, fun _ => rfl⟩
  · have hcore : padLeft (decimals + 1) core = core := by
      rw [padLeft, Nat.sub_eq_zero_of_le (by omega)]
      rfl
    have hpos : core.length - decimals ≠ 0 := by omega
    rw [hcore] at hdigits ⊢
    refine ⟨hdigits.of_subset (List.take_subset _ _), ?_, ?_⟩
    · rw [ne_eq, List.take_eq_nil_iff, not_or]
      refine ⟨hpos, ?_⟩
      rintro rfl
      simp at hpos
    · intro hzero
      rw [List.head?_take, if_neg hpos] at hzero
      exact absurd hzero hhead

theorem inUnits?_of_isUnits (h : IsUnits value) (hdecimals : decimals ≤ mostDecimals) :
    inUnits? value decimals =
      let digits := padLeft (decimals + 1) (dropLeadingZeros value.toList)
      some (String.ofList (written (digits.take (digits.length - decimals))
        (dropTrailingZeros (digits.drop (digits.length - decimals))))) := by
  obtain ⟨hne, hdigits⟩ := h
  have hall : value.toList.all Char.isDigit = true := List.all_eq_true.2 hdigits
  have hempty : value.toList.isEmpty = false := by simpa using hne
  simp [inUnits?, hall, hempty, written, Nat.not_lt.2 hdecimals]

theorem isUnits_of_inUnits? (h : inUnits? value decimals = some text) :
    IsUnits value ∧ decimals ≤ mostDecimals := by
  simp only [inUnits?, Option.ite_none_left_eq_some] at h
  obtain ⟨hguard, -⟩ := h
  simp only [Bool.or_eq_true, decide_eq_true_eq, List.isEmpty_iff, Bool.not_eq_true',
    not_or, Bool.not_eq_false, List.all_eq_true, not_lt] at hguard
  obtain ⟨⟨hdecimals, hne⟩, hdigits⟩ := hguard
  exact ⟨⟨hne, hdigits⟩, hdecimals⟩

/-- The zeros at the end that are dropped count for nothing behind a point. -/
theorem amount_of_written {cut : List Char} (hwhole : IsWhole whole) (hcut : AllDigits cut)
    (htext : text.toList = written whole (dropTrailingZeros cut)) :
    IsAmount cut.length text ∧ amountOf text = decimal (whole ++ cut) / 10 ^ cut.length := by
  refine ⟨⟨whole, _, hwhole, isFraction_dropTrailingZeros hcut (Nat.le_refl _), htext⟩, ?_⟩
  rw [amountOf_written hwhole.digits htext, div_eq_div_iff (by positivity) (by positivity)]
  obtain ⟨n, hn⟩ := exists_eq_dropTrailingZeros_append cut
  generalize dropTrailingZeros cut = fraction at hn
  have hdecimal : decimal (whole ++ cut) = decimal (whole ++ fraction) * 10 ^ n := by
    rw [hn, ← List.append_assoc, Text.decimal_append, Text.decimal_replicate_zero,
      List.length_replicate, Nat.add_zero]
  have hlength : cut.length = fraction.length + n := by
    rw [hn, List.length_append, List.length_replicate]
  rw [hdecimal, hlength]
  push_cast
  ring

/-- The text of an amount is the amount to the last digit. -/
theorem exists_inUnits? (h : IsUnits value) (hdecimals : decimals ≤ mostDecimals) :
    ∃ text, inUnits? value decimals = some text ∧ IsAmount decimals text ∧
      amountOf text = decimal value.toList / 10 ^ decimals := by
  have hshown := inUnits?_of_isUnits h hdecimals
  have hwhole := isWhole_take_padLeft decimals h.2
  have hdigits := allDigits_padLeft (decimals + 1) h.2
  have hvalue := decimal_padLeft (decimals + 1) value.toList
  have hlength : decimals ≤ (padLeft (decimals + 1) (dropLeadingZeros value.toList)).length := by
    rw [padLeft, List.length_append, List.length_replicate]
    omega
  generalize padLeft (decimals + 1) (dropLeadingZeros value.toList) = digits at *
  have hcut : AllDigits (digits.drop (digits.length - decimals)) :=
    hdigits.of_subset (List.drop_subset _ _)
  have hplaces : (digits.drop (digits.length - decimals)).length = decimals := by
    rw [List.length_drop]
    omega
  have hamount := amount_of_written hwhole hcut String.toList_ofList
  rw [List.take_append_drop, hplaces, hvalue] at hamount
  exact ⟨_, hshown, hamount⟩

/-- Amounts are shown to the last digit, without a digit that says nothing, and so that two are
shown alike exactly if they are equal; what is no number of base units, or has more decimals than a
token can have, is not shown. -/
theorem amounts_shown_exactly (value : String) (decimals : Nat) :
    (IsUnits value → decimals ≤ 77 →
      ∃ text, inUnits? value decimals = some text ∧ IsAmount decimals text ∧
        amountOf text = decimal value.toList / 10 ^ decimals) ∧
    (∀ (other : String) (places : Nat), IsUnits value → IsUnits other → decimals ≤ 77 →
      places ≤ 77 →
      (inUnits? value decimals = inUnits? other places ↔
        (decimal value.toList : ℚ) / 10 ^ decimals = decimal other.toList / 10 ^ places)) ∧
    (¬ (IsUnits value ∧ decimals ≤ 77) → inUnits? value decimals = none) := by
  refine ⟨exists_inUnits?, ?_, ?_⟩
  · intro other places hvalue hother hdecimals hplaces
    obtain ⟨text, htext, hamount, heq⟩ := exists_inUnits? hvalue hdecimals
    obtain ⟨text', htext', hamount', heq'⟩ := exists_inUnits? hother hplaces
    rw [htext, htext', ← heq, ← heq']
    constructor
    · intro hsame
      rw [Option.some.inj hsame]
    · intro hsame
      rw [hamount.eq_of_amountOf_eq hamount' hsame]
  · intro hnot
    cases hshown : inUnits? value decimals with
    | none => rfl
    | some text => exact absurd (isUnits_of_inUnits? hshown) hnot

example : inUnits? "1500000" 6 = some "1.5" := by decide

/-- A value with zeros in front and at the end, an equal one in other units, and one that is no
number of units. -/
theorem amounts_shown_exactly_sample :
    (∃ text, inUnits? "0001500000" 6 = some text ∧ IsAmount 6 text ∧
      amountOf text = (1500000 : ℚ) / 10 ^ 6) ∧
    (inUnits? "0001500000" 6 = inUnits? "15" 1 ↔
      (1500000 : ℚ) / 10 ^ 6 = 15 / 10 ^ 1) ∧
    inUnits? "-1" 6 = none ∧ inUnits? "1" 78 = none := by
  have hvalue : IsUnits "0001500000" := ⟨by decide, by decide⟩
  have hother : IsUnits "15" := ⟨by decide, by decide⟩
  have hsigned : ¬ IsUnits "-1" := fun h => absurd (h.2 '-' (by decide)) (by decide)
  have hdecimal : decimal "0001500000".toList = 1500000 := rfl
  have hdecimal' : decimal "15".toList = 15 := rfl
  have hshown := (amounts_shown_exactly "0001500000" 6).1 hvalue (by decide)
  have hequal := (amounts_shown_exactly "0001500000" 6).2.1 "15" 1 hvalue hother (by decide)
    (by decide)
  rw [hdecimal] at hshown hequal
  rw [hdecimal'] at hequal
  exact ⟨by simpa using hshown, by simpa using hequal,
    (amounts_shown_exactly "-1" 6).2.2 fun h => hsigned h.1,
    (amounts_shown_exactly "1" 78).2.2 fun h => absurd h.2 (by decide)⟩

end ChainCrawl.Explorer
