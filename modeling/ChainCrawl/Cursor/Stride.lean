import ChainCrawl.Cursor.Basic
import ChainCrawl.Window
import ChainCrawl.Word

namespace ChainCrawl

/-- The next window of a cursor under a confirmed height. -/
inductive WindowPlan where
  | ready (window : Window)
  /-- The window would end at `needed`, above the confirmed height. -/
  | early (safeHeight needed : Int)
  deriving DecidableEq

namespace Cursor

/-- The next window, if it lies under the confirmed height. A cursor at height `h` with step `s`
asks for the window from `h` to `h + s`. -/
def plan (c : Cursor) (safeHeight : Int) : WindowPlan :=
  let last := c.height + c.step
  if safeHeight < last then .early safeHeight last else .ready ⟨c.height, last⟩

/-- The end of the next window, where it fits its word. -/
def lastInWord? (c : Cursor) : Option Int :=
  Word.held? (c.height + c.step)

/-- The next window, where its end fits its word. -/
def planInWord? (c : Cursor) (safeHeight : Int) : Option WindowPlan :=
  c.lastInWord?.map fun _ => c.plan safeHeight

def shrunk (c : Cursor) : Cursor :=
  { c with step := c.minStep }

end Cursor

/-- The step that a source's cursor takes after every stored window. -/
structure Stride where
  nominal : Int
  deriving DecidableEq

namespace Stride

/-- The given stride, or the least one possible. -/
def of (nominal : Int) : Stride :=
  ⟨max nominal 1⟩

/-- The cursor after its window has been stored. A cursor at height `h` with step `s` comes to stand
at `h + s + 1`. -/
def past (stride : Stride) (c : Cursor) (window : Window) : Cursor :=
  { c with
    height := max c.height (window.last + 1)
    step := max stride.nominal c.minStep }

/-- The cursor after its window has been stored, where the height after it fits its word. -/
def pastInWord? (stride : Stride) (c : Cursor) (window : Window) : Option Cursor :=
  (Word.held? (window.last + 1)).map fun _ => stride.past c window

end Stride

end ChainCrawl
