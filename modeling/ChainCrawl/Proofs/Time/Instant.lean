import ChainCrawl.Time.Instant
import Mathlib.Data.Prod.Lex

namespace ChainCrawl.Time.Instant

/-- The seconds, and then the nanoseconds. -/
def place (t : Instant) : Int ×ₗ Nat :=
  toLex (t.seconds, t.nanos)

theorem place_injective : Function.Injective place := by
  intro a b h
  cases a
  cases b
  simpa [place] using h

instance : LinearOrder Instant :=
  LinearOrder.lift' place place_injective

theorem before_iff {a b : Instant} : a.before b = true ↔ a < b := by
  have hlt : a < b ↔ a.place < b.place := Iff.rfl
  simp [hlt, place, Prod.Lex.toLex_lt_toLex, before]

theorem latest_eq_max (a b : Instant) : a.latest b = max a b := by
  unfold latest
  by_cases hlt : a < b
  · rw [if_pos (before_iff.2 hlt), max_eq_right hlt.le]
  · rw [if_neg (mt before_iff.1 hlt), max_eq_left (not_lt.1 hlt)]

end ChainCrawl.Time.Instant
