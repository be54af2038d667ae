import ChainCrawl.Poller.Cycle
import ChainCrawl.Proofs.Config.Rules

namespace ChainCrawl.Poller

variable (loop : Poller)

/-- The height at which a cycle takes up the scan. -/
def position (stored : Option Cursor) : Int :=
  match stored with
  | some c => max c.height loop.source.startHeight
  | none => loop.source.startHeight

variable {loop} {stored : Option Cursor} {c : Cursor}

theorem startHeight_le_position : loop.source.startHeight ≤ loop.position stored := by
  cases stored with
  | none => exact Int.le_refl _
  | some s => exact Int.le_max_right _ _

/-- The cursor from a stored one, field by field. -/
theorem startCursor_some {s : Cursor} (h : loop.startCursor (some s) = some c) :
    loop.source.minStep ≤ loop.source.step ∧
      c = { s with
        minStep := loop.source.minStep
        confirmations := loop.source.confirmations
        sleepMillis := loop.source.sleepMillis
        step := max loop.source.minStep (min s.step loop.source.step)
        height := max s.height loop.source.startHeight } := by
  simp only [startCursor, Cursor.adjust?, Cursor.clamp?] at h
  split at h
  · rename_i hsteps
    exact ⟨hsteps, (Option.some.inj h).symm⟩
  · cases h

theorem startCursor_none (h : loop.startCursor none = some c) : c = .ofSource loop.source :=
  (Option.some.inj h).symm

theorem height_of_startCursor (h : loop.startCursor stored = some c) :
    c.height = loop.position stored := by
  cases stored with
  | none =>
    rw [startCursor_none h]
    rfl
  | some s =>
    obtain ⟨-, rfl⟩ := startCursor_some h
    rfl

/-- A cursor keeps the name under which it was stored. -/
theorem source_of_startCursor (h : loop.startCursor stored = some c)
    (hstored : ∀ s, stored = some s →
      s.sourceKey = loop.source.key ∧ s.network = loop.source.network) :
    c.sourceKey = loop.source.key ∧ c.network = loop.source.network := by
  cases stored with
  | none =>
    rw [startCursor_none h]
    exact ⟨rfl, rfl⟩
  | some s =>
    obtain ⟨-, rfl⟩ := startCursor_some h
    exact hstored s rfl

/-- The stored step counts between the bounds only, so it may have been saved under other
settings. -/
theorem step_of_startCursor (hrun : loop.source.Runnable)
    (h : loop.startCursor stored = some c) :
    loop.source.minStep ≤ c.step ∧ c.step ≤ loop.source.step := by
  have hsteps := hrun.minStep_le_step
  cases stored with
  | none =>
    rw [startCursor_none h]
    exact ⟨hsteps, Int.le_refl _⟩
  | some s =>
    obtain ⟨-, rfl⟩ := startCursor_some h
    dsimp only
    omega

theorem minStep_of_startCursor (h : loop.startCursor stored = some c) :
    c.minStep = loop.source.minStep := by
  cases stored with
  | none =>
    rw [startCursor_none h]
    rfl
  | some s =>
    obtain ⟨-, rfl⟩ := startCursor_some h
    rfl

/-- The cursor behind a window stands right after it. -/
theorem height_past {window : Window} (h : c.height ≤ window.last + 1) :
    (loop.stride.past c window).height = window.last + 1 :=
  Int.max_eq_right h

/-- The cursor behind a window takes the step of its source again. -/
theorem step_past (hrun : loop.source.Runnable) (hminStep : c.minStep ≤ loop.source.step)
    (window : Window) : (loop.stride.past c window).step = loop.source.step := by
  have hnominal : max loop.source.step 1 = loop.source.step := Int.max_eq_left hrun.one_le_step
  dsimp only [Stride.past, stride, Stride.of]
  rw [hnominal]
  exact Int.max_eq_left hminStep

/-- A source that can be run always has a cursor. -/
theorem exists_startCursor (hrun : loop.source.Runnable) (stored : Option Cursor) :
    ∃ c, loop.startCursor stored = some c := by
  cases stored with
  | none => exact ⟨_, rfl⟩
  | some s =>
    simp only [startCursor, Cursor.adjust?, Cursor.clamp?, if_pos hrun.minStep_le_step]
    exact ⟨_, rfl⟩

end ChainCrawl.Poller
