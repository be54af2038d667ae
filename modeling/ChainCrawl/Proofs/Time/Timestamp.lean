import ChainCrawl.Proofs.Text.Scan
import ChainCrawl.Proofs.Time.Date
import ChainCrawl.Time.Timestamp

namespace ChainCrawl.Time

open Text (Scan StopsAt decimal)

section Padded

variable {width n : Nat}

theorem isDigit_of_mem_padded {c : Char} (h : c ∈ padded width n) : c.isDigit = true := by
  obtain h | h := List.mem_append.1 h
  · rw [List.eq_of_mem_replicate h]
    rfl
  · exact Nat.isDigit_of_mem_toDigits (by decide) (by decide) h

theorem padded_ne_nil : padded width n ≠ [] := by
  intro h
  exact Nat.toDigits_ne_nil (List.append_eq_nil_iff.1 h).2

theorem padded_append_ne {c : Char} {rest tail : List Char} (h : c.isDigit = false) :
    padded width n ++ rest ≠ c :: tail := by
  intro heq
  obtain ⟨d, digits, hcons⟩ := List.exists_cons_of_ne_nil (@padded_ne_nil width n)
  have hd : d.isDigit = true :=
    @isDigit_of_mem_padded width n d (hcons ▸ List.mem_cons_self)
  rw [hcons, List.cons_append] at heq
  rw [(List.cons.inj heq).1, h] at hd
  cases hd

theorem length_toDigits_le {bound : Nat} (h : n < bound) (hwidth : 0 < width)
    (hbound : Nat.pow 10 width = bound) : (Nat.toDigits 10 n).length ≤ width := by
  rw [← hbound] at h
  exact (Nat.length_toDigits_le_iff (by decide) hwidth).2 h

theorem length_padded (h : (Nat.toDigits 10 n).length ≤ width) :
    (padded width n).length = width := by
  simp only [padded, List.length_append, List.length_replicate]
  omega

/-- Zeros in front do not count. -/
theorem decimal_padded : decimal (padded width n) = n := by
  rw [decimal, padded, Nat.ofDigitChars_append, Nat.ofDigitChars_replicate_zero, Nat.mul_zero,
    Nat.ofDigitChars_toDigits (by decide) (by decide)]

end Padded

namespace Read

variable {rest : List Char}

theorem blanks_of_stopsAt (h : StopsAt Text.isBlank rest) : blanks rest = some ((), rest) := by
  rw [blanks, Text.skipBlanks, h.dropWhile_eq]

theorem blanks_padded {width n : Nat} :
    blanks (padded width n ++ rest) = some ((), padded width n ++ rest) := by
  refine blanks_of_stopsAt (.append padded_ne_nil fun c hc => ?_)
  exact Text.isBlank_of_isDigit (isDigit_of_mem_padded hc)

theorem takeUpTo_padded {width n : Nat} (h : (Nat.toDigits 10 n).length ≤ width) :
    Scan.takeUpTo width Char.isDigit (padded width n ++ rest) = some (padded width n, rest) := by
  have hlength : (padded width n).length = width := length_padded h
  exact Scan.takeUpTo_append (fun c hc => isDigit_of_mem_padded hc) padded_ne_nil
    (Nat.le_of_eq hlength) (.inl hlength)

theorem separator_cons {c : Char} (h : Text.isBlank c = false) :
    separator c (c :: rest) = some ((), rest) := by
  rw [separator, Scan.bind_of_eq (blanks_of_stopsAt (.cons h))]
  exact Scan.char_cons c

theorem field_padded {least greatest n : Nat} (hleast : least ≤ n) (hgreatest : n ≤ greatest)
    (h : n < 100) : field least greatest (padded 2 n ++ rest) = some (n, rest) := by
  have hdigits : (Nat.toDigits 10 n).length ≤ 2 := length_toDigits_le h (by decide) rfl
  have hwithin : (decide (least ≤ decimal (padded 2 n)) &&
      decide (decimal (padded 2 n) ≤ greatest)) = true := by
    simp [decimal_padded, hleast, hgreatest]
  rw [field, Scan.bind_of_eq blanks_padded, Scan.bind_of_eq (takeUpTo_padded hdigits),
    Scan.bind_of_eq (Scan.guard_of hwithin)]
  change some (decimal (padded 2 n), rest) = _
  rw [decimal_padded]

/-- The digits of a year with a sign end where no digit follows. -/
theorem takeUpTo_digits {n : Nat} (hrest : StopsAt Char.isDigit rest) :
    Scan.takeUpTo (padded 4 n ++ rest).length Char.isDigit (padded 4 n ++ rest) =
      some (padded 4 n, rest) :=
  Scan.takeUpTo_append (fun _ hc => isDigit_of_mem_padded hc) padded_ne_nil (by simp) (.inr hrest)

theorem year_renderYear (y : Int) (hrest : StopsAt Char.isDigit rest) :
    year (renderYear y ++ rest) = some (y, rest) := by
  unfold renderYear
  by_cases hplain : 0 ≤ y ∧ y ≤ 9999
  · have hdigits : (Nat.toDigits 10 y.toNat).length ≤ 4 :=
      length_toDigits_le (show y.toNat < 10000 by omega) (by decide) rfl
    have hminus : ∀ tail, padded 4 y.toNat ++ rest = '-' :: tail → False :=
      fun _ => padded_append_ne rfl
    have hplus : ∀ tail, padded 4 y.toNat ++ rest = '+' :: tail → False :=
      fun _ => padded_append_ne rfl
    rw [if_pos hplain, year, Scan.bind_of_eq blanks_padded, Scan.bind_of_eq (Scan.get_eq _)]
    simp only
    rw [Scan.bind_of_eq (takeUpTo_padded hdigits), decimal_padded,
      Int.toNat_of_nonneg hplain.1]
    rfl
  · rw [if_neg hplain]
    by_cases hneg : y < 0
    · have hy : -(y.natAbs : Int) = y := by omega
      rw [if_pos hneg, List.cons_append, year, Scan.bind_of_eq (blanks_of_stopsAt (.cons rfl)),
        Scan.bind_of_eq (Scan.get_eq _)]
      simp only
      rw [Scan.bind_of_eq (Scan.set_eq _ _), Scan.bind_of_eq (takeUpTo_digits hrest),
        decimal_padded, hy]
      rfl
    · have hy : (y.natAbs : Int) = y := by omega
      rw [if_neg hneg, List.cons_append, year, Scan.bind_of_eq (blanks_of_stopsAt (.cons rfl)),
        Scan.bind_of_eq (Scan.get_eq _)]
      simp only
      rw [Scan.bind_of_eq (Scan.set_eq _ _), Scan.bind_of_eq (takeUpTo_digits hrest),
        decimal_padded, hy]
      rfl

/-- The digits after a point count by their place. -/
theorem fraction_point {width n scale : Nat} (h : (Nat.toDigits 10 n).length ≤ width)
    (hle : width ≤ 9) (hscale : Nat.pow 10 (9 - width) = scale)
    (hrest : StopsAt Char.isDigit rest) :
    fraction ('.' :: padded width n ++ rest) = some (n * scale, rest) := by
  have hlength : (padded width n).length = width := length_padded h
  have htaken : Scan.takeUpTo 9 Char.isDigit (padded width n ++ rest) =
      some (padded width n, rest) :=
    Scan.takeUpTo_append (fun _ hc => isDigit_of_mem_padded hc) padded_ne_nil
      (by rw [hlength]; exact hle) (.inr hrest)
  have hnone : Scan.takeWhile Char.isDigit rest = some ([], rest) := by
    rw [Scan.takeWhile, hrest.takeWhile_eq, hrest.dropWhile_eq]
  rw [fraction, List.cons_append, Scan.bind_of_eq (Scan.peek_eq _)]
  simp only [List.head?_cons]
  rw [Scan.bind_of_eq (Scan.char_cons _), Scan.bind_of_eq htaken, Scan.bind_of_eq hnone,
    decimal_padded, hlength, hscale]
  rfl

/-- Decimals are written in groups of three, and those that are left out are zeros. -/
theorem fraction_renderFraction {nanos : Nat} (h : nanos < 1000000000)
    (hdigit : StopsAt Char.isDigit rest) (hdot : StopsAt (· = '.') rest) :
    fraction (renderFraction nanos ++ rest) = some (nanos, rest) := by
  unfold renderFraction
  split
  · rename_i hzero
    have hpoint : rest.head? = some '.' → False := fun heq => by simpa using hdot '.' heq
    rw [List.nil_append, fraction, Scan.bind_of_eq (Scan.peek_eq _)]
    simp only
    rw [hzero]
    rfl
  · split
    · have hdigits : (Nat.toDigits 10 (nanos / 1000000)).length ≤ 3 :=
        length_toDigits_le (show _ < 1000 by omega) (by decide) rfl
      have hscale : Nat.pow 10 (9 - 3) = 1000000 := rfl
      rw [fraction_point hdigits (by decide) hscale hdigit, Nat.div_mul_cancel (by omega)]
    · split
      · have hdigits : (Nat.toDigits 10 (nanos / 1000)).length ≤ 6 :=
          length_toDigits_le (show _ < 1000000 by omega) (by decide) rfl
        have hscale : Nat.pow 10 (9 - 6) = 1000 := rfl
        rw [fraction_point hdigits (by decide) hscale hdigit, Nat.div_mul_cancel (by omega)]
      · have hdigits : (Nat.toDigits 10 nanos).length ≤ 9 :=
          length_toDigits_le h (by decide) rfl
        have hscale : Nat.pow 10 (9 - 9) = 1 := rfl
        rw [fraction_point hdigits (by decide) hscale hdigit, Nat.mul_one]

theorem offset_zulu : offset ['Z'] = some (0, []) := rfl

end Read

namespace Instant

variable (t : Instant)

theorem secondOfDay_lt : t.secondOfDay < 86400 := by
  unfold secondOfDay
  omega

theorem seconds_eq : t.seconds = t.day * 86400 + t.secondOfDay := by
  unfold secondOfDay day
  omega

/-- A leap second is the last one of its minute. -/
theorem secondOfDay_mod_of_leap {t : Instant} (h : 1000000000 ≤ t.nanos) :
    t.secondOfDay % 60 = 59 := by
  have hlast : t.seconds % 60 = 59 := t.leap h
  unfold secondOfDay
  omega

/-- The years of instants are those that are read. -/
theorem yearRange_day : Read.yearRange (Date.ofDays t.day).year = true := by
  have hfirst : firstSecond ≤ t.seconds := t.first_le
  have hlast : t.seconds ≤ lastSecond := t.le_last
  simp only [firstSecond, lastSecond] at hfirst hlast
  have hle : -262143 ≤ (Date.ofDays t.day).year := Date.le_year_ofDays (by unfold day; omega)
  have hge : (Date.ofDays t.day).year ≤ 262142 := Date.year_ofDays_le (by unfold day; omega)
  simp [Read.yearRange, hle, hge]

/-- A second is written as `:60` where the nanoseconds exceed a second, which they do not else. -/
private theorem second_eq_iff :
    t.secondOfDay % 60 + (if 1000000000 ≤ t.nanos then 1 else 0) = 60 ↔ 1000000000 ≤ t.nanos := by
  split
  · rename_i hleap
    simp [secondOfDay_mod_of_leap hleap, hleap]
  · omega

theorem instant_render : Read.instant t.render = some (t, []) := by
  have hmonth := Date.month_ofDays t.day
  have hday := Date.day_ofDays t.day
  have hsecondOfDay := t.secondOfDay_lt
  have hleap := t.second_eq_iff
  generalize hsecond : t.secondOfDay % 60 + (if 1000000000 ≤ t.nanos then 1 else 0) = second
    at hleap
  generalize hnanos : (if 1000000000 ≤ t.nanos then t.nanos - 1000000000 else t.nanos) = nanos
  have hnanosLt : nanos < 1000000000 := by
    have hlt : t.nanos < 2000000000 := t.nanos_lt
    split at hnanos <;> omega
  have hsecondLe : second ≤ 60 := by
    split at hsecond <;> omega
  have hdate : (⟨(Date.ofDays t.day).year, ((Date.ofDays t.day).month.toNat : Int),
      ((Date.ofDays t.day).day.toNat : Int)⟩ : Date) = Date.ofDays t.day := by
    rw [Int.toNat_of_nonneg (by omega), Int.toNat_of_nonneg (by omega)]
  have hcivil : t.day * 86400 + (t.secondOfDay / 3600 : Nat) * 3600 +
      (t.secondOfDay / 60 % 60 : Nat) * 60 + ((if second = 60 then 59 else second : Nat) : Int) -
        0 = t.seconds := by
    rw [t.seconds_eq]
    split at hsecond <;> split <;> omega
  have hwithin : (if second = 60 then nanos + 1000000000 else nanos) = t.nanos := by
    split at hnanos <;> split <;> omega
  unfold render
  simp only [hsecond, hnanos, List.append_assoc, List.cons_append]
  rw [Read.instant, Scan.bind_of_eq (Read.year_renderYear _ (.cons rfl)),
    Scan.bind_of_eq (Read.separator_cons rfl),
    Scan.bind_of_eq (Read.field_padded (by omega) (by omega) (by omega)),
    Scan.bind_of_eq (Read.separator_cons rfl),
    Scan.bind_of_eq (Read.field_padded (by omega) (by omega) (by omega)),
    Scan.bind_of_eq (Scan.satisfy_cons rfl),
    Scan.bind_of_eq (Read.field_padded (by omega) (by omega) (by omega)),
    Scan.bind_of_eq (Read.separator_cons rfl),
    Scan.bind_of_eq (Read.field_padded (by omega) (by omega) (by omega)),
    Scan.bind_of_eq (Read.separator_cons rfl),
    Scan.bind_of_eq (Read.field_padded (by omega) (by omega) (by omega)),
    Scan.bind_of_eq (Read.fraction_renderFraction hnanosLt (.cons rfl) (.cons rfl)),
    Scan.bind_of_eq (Read.blanks_of_stopsAt (.cons rfl)),
    Scan.bind_of_eq Read.offset_zulu,
    Scan.bind_of_eq (Read.blanks_of_stopsAt .nil), hdate,
    Scan.bind_of_eq (Scan.guard_of (by rw [t.yearRange_day, Date.exists?_ofDays]; rfl))]
  simp only [Date.toDays_ofDays, hcivil, hwithin, ofUnix?_seconds_nanos]
  rfl

/-- The text of an instant reads as that instant. -/
theorem read?_text : read? t.text = some t := by
  rw [read?, text, Scan.all, String.toList_ofList, Scan.bind_of_eq t.instant_render]
  rfl

end Instant

end ChainCrawl.Time
