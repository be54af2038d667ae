import ChainCrawl.Source

namespace ChainCrawl

/-- The scan position of a source with the parameters of its next window. -/
structure Cursor where
  sourceKey : String
  network : Network
  /-- The next height to scan. -/
  height : Int
  step : Int
  minStep : Int
  confirmations : Int
  sleepMillis : Nat
  deriving DecidableEq

namespace Cursor

/-- The cursor of a source that has never been polled. -/
def ofSource (s : Source) : Cursor where
  sourceKey := s.key
  network := s.network
  height := s.startHeight
  step := s.step
  minStep := s.minStep
  confirmations := s.confirmations
  sleepMillis := s.sleepMillis

/-- The nearest number between two bounds; none lies between bounds that are crossed. -/
def clamp? (x least greatest : Int) : Option Int :=
  if least ≤ greatest then some (max least (min x greatest)) else none

/-- A stored cursor under the present settings of its source: the position is kept but is no lower
than the source's start, and the step is brought between the source's two steps. Crossed steps
leave no cursor. -/
def adjust? (c : Cursor) (s : Source) : Option Cursor :=
  (clamp? c.step s.minStep s.step).map fun step =>
    { c with
      minStep := s.minStep
      confirmations := s.confirmations
      sleepMillis := s.sleepMillis
      step := step
      height := max c.height s.startHeight }

end Cursor

end ChainCrawl
