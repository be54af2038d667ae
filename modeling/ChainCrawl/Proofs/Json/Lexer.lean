import ChainCrawl.Json.Lexer
import ChainCrawl.Json.Writer
import ChainCrawl.Proofs.Text.Scan

namespace ChainCrawl.Json

open Text (StopsAt)

theorem hexValue?_digitChar : ∀ n < 16, hexValue? (Nat.digitChar n) = some n := by
  decide

/-- A unit below the surrogates stands for its character, whatever follows it. -/
theorem joinPieces_unit {n : Nat} (h : n < 0xD800) (pieces : List Piece) :
    joinPieces (.unit n :: pieces) = (joinPieces pieces).map (Char.ofNat n :: ·) := by
  have hhigh : isHighSurrogate n = false := by simp [isHighSurrogate]; omega
  have hlow : isLowSurrogate n = false := by simp [isLowSurrogate]; omega
  cases pieces with
  | nil => simp [joinPieces, hhigh, hlow]
  | cons piece rest =>
    cases piece with
    | char c => simp [joinPieces, hhigh, hlow]
    | unit low => simp [joinPieces, hhigh, hlow]

theorem scanText_escapeUnit {c : Char} (h : c.toNat < 0x20) (cs : List Char) :
    scanText (escapeUnit c ++ cs) =
      (scanText cs).map fun p => (.unit c.toNat :: p.1, p.2) := by
  have hhigh : hexValue? (Nat.digitChar (c.toNat / 16)) = some (c.toNat / 16) :=
    hexValue?_digitChar _ (by omega)
  have hlow : hexValue? (Nat.digitChar (c.toNat % 16)) = some (c.toNat % 16) :=
    hexValue?_digitChar _ (by omega)
  have hunit : hexUnit? '0' '0' (Nat.digitChar (c.toNat / 16)) (Nat.digitChar (c.toNat % 16)) =
      some c.toNat := by
    have hzero : hexValue? '0' = some 0 := by decide
    have hvalue : c.toNat / 16 * 16 + c.toNat % 16 = c.toNat := by omega
    simp [hexUnit?, hzero, hhigh, hlow, hvalue]
  cases hrest : scanText cs <;> simp [escapeUnit, scanText, hunit, hrest]

theorem scanText_plain {c : Char} (h : ¬ c.toNat < 0x20) (hquote : c ≠ '"') (hslash : c ≠ '\\')
    (cs : List Char) :
    scanText (c :: cs) = (scanText cs).map fun p => (.char c :: p.1, p.2) := by
  rw [scanText.eq_def]
  split
  case h_1 heq => cases heq
  case h_2 heq => exact absurd (List.cons.inj heq).1 hquote
  case h_3 heq => exact absurd (List.cons.inj heq).1 hslash
  case h_4 heq => exact absurd (List.cons.inj heq).1 hslash
  case h_5 heq =>
    cases heq
    rw [if_neg h]
    cases scanText cs <;> rfl

/-- The text of one character is scanned as one piece, which is joined to that character. -/
theorem scanText_escape (c : Char) (cs : List Char) :
    ∃ piece, scanText (escape c ++ cs) = (scanText cs).map (fun p => (piece :: p.1, p.2)) ∧
      ∀ pieces, joinPieces (piece :: pieces) = (joinPieces pieces).map (c :: ·) := by
  unfold escape
  split
  case h_8 hquote hslash _ _ _ _ _ => 
    by_cases h : c.toNat < 0x20
    · rw [if_pos h]
      refine ⟨.unit c.toNat, scanText_escapeUnit h cs, fun pieces => ?_⟩
      rw [joinPieces_unit (by omega), Char.ofNat_toNat]
    · rw [if_neg h]
      refine ⟨.char c, scanText_plain h hquote hslash cs, fun pieces => rfl⟩
  all_goals exact ⟨.char _, by cases h : scanText cs <;> simp [scanText, escaped?, h], fun _ => rfl⟩

/-- A text without its quotes, as it is scanned up to the closing quote. -/
theorem scanText_flatMap_escape (cs rest : List Char) :
    ∃ pieces, scanText (cs.flatMap escape ++ '"' :: rest) = some (pieces, rest) ∧
      joinPieces pieces = some cs := by
  induction cs with
  | nil => exact ⟨[], rfl, rfl⟩
  | cons c cs ih =>
    obtain ⟨pieces, hscan, hjoin⟩ := ih
    obtain ⟨piece, hstep, hpiece⟩ := scanText_escape c (cs.flatMap escape ++ '"' :: rest)
    refine ⟨piece :: pieces, ?_, ?_⟩
    · rw [List.flatMap_cons, List.append_assoc, hstep, hscan]
      rfl
    · rw [hpiece, hjoin]
      rfl

theorem scanToken_renderText (s : String) (rest : List Char) :
    scanToken (renderText s ++ rest) = some (.text (some s), rest) := by
  obtain ⟨pieces, hscan, hjoin⟩ := scanText_flatMap_escape s.toList rest
  have htext : renderText s ++ rest = '"' :: (s.toList.flatMap escape ++ '"' :: rest) := by
    simp [renderText]
  rw [htext, scanToken, hscan]
  simp [hjoin]

/-- What follows belongs to no number. -/
def EndsNumber (cs : List Char) : Prop :=
  StopsAt (fun c => c.isDigit || c = '.' || c = 'e' || c = 'E') cs

section Numbers

variable {rest : List Char}

theorem EndsNumber.stopsAt (h : EndsNumber rest) : StopsAt Char.isDigit rest := by
  intro c hc
  have hnone := h c hc
  simp only [Bool.or_eq_false_iff] at hnone
  exact hnone.1.1.1

theorem EndsNumber.scanFraction_eq (h : EndsNumber rest) : scanFraction rest = some ([], rest) := by
  rw [scanFraction.eq_def]
  split
  · exact absurd (h '.' rfl) (by decide)
  · rfl

theorem EndsNumber.scanExponent_eq (h : EndsNumber rest) :
    scanExponent rest = some (none, rest) := by
  rw [scanExponent.eq_def]
  split
  · exact absurd (h 'e' rfl) (by decide)
  · exact absurd (h 'E' rfl) (by decide)
  · rfl

/-- Only the number zero is written with a zero in front. -/
theorem exists_toDigits_eq_cons {n : Nat} (h : 0 < n) :
    ∃ c digits, Nat.toDigits 10 n = c :: digits ∧ c ≠ '0' := by
  induction n using Nat.strongRecOn with
  | ind n ih =>
    by_cases hsmall : n < 10
    · refine ⟨Nat.digitChar n, [], Nat.toDigits_of_lt_base hsmall, ?_⟩
      have hne : ∀ m < 10, 0 < m → Nat.digitChar m ≠ '0' := by decide
      exact hne n hsmall h
    · obtain ⟨c, digits, heq, hc⟩ := ih (n / 10) (by omega) (by omega)
      refine ⟨c, digits ++ [Nat.digitChar (n % 10)], ?_, hc⟩
      rw [Nat.toDigits_of_base_le (by decide) (by omega), heq]
      rfl

theorem scanWhole_toDigits (n : Nat) (hrest : StopsAt Char.isDigit rest) :
    scanWhole (Nat.toDigits 10 n ++ rest) = some (Nat.toDigits 10 n, rest) := by
  obtain rfl | hpos := Nat.eq_zero_or_pos n
  · rfl
  · have hdigits : scanDigits (Nat.toDigits 10 n ++ rest) = (Nat.toDigits 10 n, rest) := by
      have hall : ∀ c ∈ Nat.toDigits 10 n, c.isDigit = true := fun _ hc =>
        Nat.isDigit_of_mem_toDigits (by decide) (by decide) hc
      rw [scanDigits, Text.takeWhile_append_of_stopsAt hall hrest,
        Text.dropWhile_append_of_stopsAt hall hrest]
    obtain ⟨c, digits, heq, hc⟩ := exists_toDigits_eq_cons hpos
    rw [heq] at hdigits ⊢
    rw [scanWhole.eq_def]
    split
    · rename_i htext
      exact absurd (List.cons.inj htext).1 hc
    · rw [hdigits]

theorem le_ofDigitChars (digits : List Char) (start : Nat) :
    start ≤ Nat.ofDigitChars 10 digits start := by
  induction digits generalizing start with
  | nil => exact Nat.le_refl _
  | cons c digits ih =>
    rw [Nat.ofDigitChars_cons]
    exact Nat.le_trans (by omega) (ih _)

theorem leadingDigits_of_le {digits : List Char} {start : Nat}
    (h : (Nat.ofDigitChars 10 digits start : Int) ≤ Word.maxUInt64) :
    leadingDigits start digits = (Nat.ofDigitChars 10 digits start, 0) := by
  induction digits generalizing start with
  | nil => rfl
  | cons c digits ih =>
    have hnext : start * 10 + digitValue c = 10 * start + (c.toNat - '0'.toNat) := by
      rw [digitValue, Nat.mul_comm]
    rw [Nat.ofDigitChars_cons, ← hnext] at h ⊢
    have hle : ((start * 10 + digitValue c : Nat) : Int) ≤ Word.maxUInt64 :=
      Int.le_trans (Int.ofNat_le.2 (le_ofDigitChars digits _)) h
    simp only [leadingDigits, if_pos hle, ih h]

theorem leadingDigits_toDigits {n : Nat} (h : (n : Int) ≤ Word.maxUInt64) :
    leadingDigits 0 (Nat.toDigits 10 n) = (n, 0) := by
  have hvalue : Nat.ofDigitChars 10 (Nat.toDigits 10 n) 0 = n :=
    Nat.ofDigitChars_toDigits (by decide) (by decide)
  rw [leadingDigits_of_le (by rw [hvalue]; exact h), hvalue]

theorem scanMagnitude_toDigits (negative : Bool) (n : Nat) (hrest : EndsNumber rest) :
    scanMagnitude negative (Nat.toDigits 10 n ++ rest) =
      some (⟨negative, Nat.toDigits 10 n, [], none⟩, rest) := by
  simp only [scanMagnitude, scanWhole_toDigits n hrest.stopsAt, hrest.scanFraction_eq,
    hrest.scanExponent_eq, Option.bind_eq_bind, Option.bind_some]
  rfl

/-- A text that begins with a digit is read as a number. -/
theorem scanToken_of_isDigit {c : Char} (hc : c.isDigit = true) (cs : List Char) :
    scanToken (c :: cs) =
      (scanMagnitude false (c :: cs)).map fun p => (.number p.1.value?, p.2) := by
  rw [scanToken.eq_def]
  split
  case h_12 => rfl
  all_goals
    rename_i htext
    rw [(List.cons.inj htext).1] at hc
    exact absurd hc (by decide)

/-- A whole number is scanned as itself where it fits 64 bits. -/
theorem scanToken_renderInt {i : Int} (hleast : Word.minInt64 ≤ i) (hgreatest : i ≤ Word.maxUInt64)
    (hrest : EndsNumber rest) :
    scanToken (renderInt i ++ rest) = some (.number (some (.int i)), rest) := by
  cases i with
  | ofNat n =>
    have hvalue : (⟨false, Nat.toDigits 10 n, [], none⟩ : Numeral).value? =
        some (.int (Int.ofNat n)) := by
      simp [Numeral.value?, Numeral.isWhole, leadingDigits_toDigits hgreatest]
    have hscan := scanMagnitude_toDigits false n hrest
    obtain ⟨c, digits, heq⟩ := List.exists_cons_of_ne_nil (@Nat.toDigits_ne_nil n 10)
    have hc : c.isDigit = true :=
      Nat.isDigit_of_mem_toDigits (by decide) (by decide) (heq ▸ List.mem_cons_self)
    rw [renderInt, heq, List.cons_append, scanToken_of_isDigit hc, ← List.cons_append, ← heq,
      hscan]
    simp only [Option.map_some, hvalue]
  | negSucc n =>
    have hmagnitude : ((n + 1 : Nat) : Int) ≤ Word.maxUInt64 := by
      simp only [Word.minInt64, Word.maxUInt64] at hleast ⊢
      omega
    have hvalue : (⟨true, Nat.toDigits 10 (n + 1), [], none⟩ : Numeral).value? =
        some (.int (Int.negSucc n)) := by
      have hwithin : (decide (0 < n + 1) &&
          decide (Word.minInt64 ≤ -((n + 1 : Nat) : Int))) = true := by
        have hle : Word.minInt64 ≤ -((n + 1 : Nat) : Int) := hleast
        rw [decide_eq_true (Nat.succ_pos n), decide_eq_true hle, Bool.and_self]
      simp only [Numeral.value?, Numeral.isWhole, leadingDigits_toDigits hmagnitude, hwithin]
      rfl
    rw [renderInt, List.cons_append, scanToken, scanMagnitude_toDigits true (n + 1) hrest]
    simp only [Option.map_some, hvalue]

end Numbers

/-- A text has these tokens, with any fuel that its length needs. -/
def HasTokens (cs : List Char) (tokens : List Token) : Prop :=
  ∀ fuel, cs.length ≤ fuel → tokensFrom fuel cs = some tokens

theorem HasTokens.nil : HasTokens [] [] := by
  intro fuel _
  cases fuel <;> rfl

theorem HasTokens.tokens?_eq {cs : List Char} {tokens : List Token} (h : HasTokens cs tokens) :
    tokens? cs = some tokens :=
  h cs.length (Nat.le_refl _)

/-- A token before a text is its first one. -/
theorem HasTokens.cons (c : Char) (found : List Char) {rest : List Char} {token : Token}
    {tokens : List Token}
    (hscan : scanToken (c :: found ++ rest) = some (token, rest)) (hspace : isSpace c = false)
    (h : HasTokens rest tokens) : HasTokens (c :: found ++ rest) (token :: tokens) := by
  intro fuel hfuel
  cases fuel with
  | zero => simp at hfuel
  | succ fuel =>
    have hrest : rest.length ≤ fuel := by
      simp only [List.cons_append, List.length_cons, List.length_append] at hfuel
      omega
    rw [List.cons_append] at hscan ⊢
    rw [tokensFrom, if_neg (by simp [hspace]), hscan]
    simp only [Option.bind_eq_bind, Option.bind_some, h fuel hrest]
    rfl

end ChainCrawl.Json
