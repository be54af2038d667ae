import ChainCrawl.Text.Blank
import ChainCrawl.Text.Scan

namespace ChainCrawl.Text

/-- The text does not go on with a character that passes the test. -/
def StopsAt (test : Char → Bool) (cs : List Char) : Prop :=
  ∀ c ∈ cs.head?, test c = false

variable {test : Char → Bool} {found rest : List Char}

theorem StopsAt.nil : StopsAt test [] := by
  intro c hc
  cases hc

theorem StopsAt.cons {c : Char} (h : test c = false) : StopsAt test (c :: rest) := by
  intro c' hc'
  cases hc'
  exact h

/-- What a text with a known start stops at is settled by its start. -/
theorem StopsAt.append (hne : found ≠ []) (h : ∀ c ∈ found, test c = false) :
    StopsAt test (found ++ rest) := by
  cases found with
  | nil => exact absurd rfl hne
  | cons c found => exact .cons (h c List.mem_cons_self)

theorem StopsAt.takeWhile_eq (h : StopsAt test rest) : rest.takeWhile test = [] := by
  cases rest with
  | nil => rfl
  | cons c rest => exact List.takeWhile_cons_of_neg (by simp [h c rfl])

theorem StopsAt.dropWhile_eq (h : StopsAt test rest) : rest.dropWhile test = rest := by
  cases rest with
  | nil => rfl
  | cons c rest => exact List.dropWhile_cons_of_neg (by simp [h c rfl])

theorem takeWhile_append_of_stopsAt (hfound : ∀ c ∈ found, test c) (h : StopsAt test rest) :
    (found ++ rest).takeWhile test = found := by
  rw [List.takeWhile_append_of_pos hfound, h.takeWhile_eq, List.append_nil]

theorem dropWhile_append_of_stopsAt (hfound : ∀ c ∈ found, test c) (h : StopsAt test rest) :
    (found ++ rest).dropWhile test = rest := by
  rw [List.dropWhile_append_of_pos hfound, h.dropWhile_eq]

/-- A text up to its first separator is known from the whole. -/
theorem append_separator_inj {a b s t separator : String} {c : Char}
    (hseparator : separator.toList = [c]) (ha : c ∉ a.toList) (hb : c ∉ b.toList) :
    a ++ separator ++ s = b ++ separator ++ t ↔ a = b ∧ s = t := by
  constructor
  · intro h
    have hlists : a.toList ++ c :: s.toList = b.toList ++ c :: t.toList := by
      simpa [hseparator] using congrArg String.toList h
    have hbefore : ∀ {name : String}, c ∉ name.toList → ∀ x ∈ name.toList, (x != c) = true :=
      fun hname x hx => bne_iff_ne.2 fun heq => hname (heq ▸ hx)
    have hstop : ∀ cs, StopsAt (· != c) (c :: cs) := fun cs => .cons (by simp)
    have hname : a.toList = b.toList := by
      rw [← takeWhile_append_of_stopsAt (hbefore ha) (hstop s.toList), hlists,
        takeWhile_append_of_stopsAt (hbefore hb) (hstop t.toList)]
    rw [hname] at hlists
    have hrest := List.append_cancel_left hlists
    exact ⟨String.toList_inj.1 hname, String.toList_inj.1 (List.cons.inj hrest).2⟩
  · rintro ⟨rfl, rfl⟩
    rfl

theorem isBlank_of_isDigit {c : Char} (h : c.isDigit = true) : isBlank c = false := by
  have hbounds : 48 ≤ c.toNat ∧ c.toNat ≤ 57 := Char.isDigit_iff_toNat.1 h
  refine Bool.eq_false_iff.2 fun hblank => ?_
  obtain ⟨range, hrange, hle, hge⟩ := Ranges.covers_iff.1 hblank
  simp only [blankRanges, List.mem_cons, List.not_mem_nil, or_false] at hrange
  obtain rfl | rfl | rfl | rfl | rfl | rfl | rfl | rfl | rfl | rfl := hrange <;>
    dsimp only at hle hge <;> omega

namespace Scan

variable {α β : Type} {cs : List Char}

theorem bind_of_eq {scan : Scan α} {a : α} (h : scan cs = some (a, rest)) (f : α → Scan β) :
    (scan >>= f) cs = f a rest := by
  change (scan cs).bind _ = _
  rw [h]
  rfl

theorem guard_of {p : Prop} [Decidable p] (h : p) :
    (guard p : Scan Unit) cs = some ((), cs) := by
  change (if p then pure () else failure : Scan Unit) cs = _
  rw [if_pos h]
  rfl

theorem get_eq (cs : List Char) : (get : Scan (List Char)) cs = some (cs, cs) := rfl

theorem set_eq (cs rest : List Char) : (set rest : Scan PUnit) cs = some (⟨⟩, rest) := rfl

theorem peek_eq (cs : List Char) : peek cs = some (cs.head?, cs) := rfl

theorem satisfy_cons {c : Char} (h : test c) : satisfy test (c :: rest) = some (c, rest) :=
  if_pos h

theorem char_cons (c : Char) : char c (c :: rest) = some ((), rest) :=
  if_pos rfl

/-- The characters are taken where their number is the greatest allowed, and where no more of them
follow. -/
theorem takeUpTo_append {width : Nat} (hfound : ∀ c ∈ found, test c) (hne : found ≠ [])
    (hle : found.length ≤ width) (hstop : found.length = width ∨ StopsAt test rest) :
    takeUpTo width test (found ++ rest) = some (found, rest) := by
  have htaken : ((found ++ rest).takeWhile test).take width = found := by
    obtain rfl | hstop := hstop
    · rw [List.takeWhile_append_of_pos hfound]
      exact List.take_left
    · rw [takeWhile_append_of_stopsAt hfound hstop, List.take_of_length_le hle]
  unfold takeUpTo
  simp only [htaken, List.isEmpty_iff, hne, if_false, List.drop_left]

end Scan

end ChainCrawl.Text
