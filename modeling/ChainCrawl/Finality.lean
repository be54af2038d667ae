import ChainCrawl.Failure
import ChainCrawl.Word

namespace ChainCrawl

/-- How many blocks on top of a block make it final on a network. -/
structure Finality where
  network : Network
  confirmations : Int
  deriving DecidableEq

namespace Finality

/-- A negative number of confirmations counts as none. -/
def of (network : Network) (confirmations : Int) : Finality :=
  ⟨network, max confirmations 0⟩

/-- The confirmed height under the height of the newest block; it is never negative. -/
def under (f : Finality) (head : Int) : Int :=
  max (head - f.confirmations) 0

/-- The confirmed height, where the difference fits its word. -/
def underInWord? (f : Finality) (head : Int) : Option Int :=
  (Word.held? (head - f.confirmations)).map (max · 0)

/-- A failure to tell the newest block, as the loop sees it: the explorer is unavailable, unless it
said of itself that it is throttled. -/
def failure (f : Finality) : Failure → Failure
  | .throttled message => .throttled message
  | .unavailable message => .unavailable message
  | other => .unavailable s!"{f.network.name} latest height: {other.text}"

def ofAnswer (f : Finality) : Fallible Int → Fallible Int
  | .ok head => .ok (f.under head)
  | .error e => .error (f.failure e)

end Finality

end ChainCrawl
