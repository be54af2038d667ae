namespace ChainCrawl

/-- The blocks from `first` to `last`, both included. -/
structure Window where
  first : Int
  last : Int
  deriving DecidableEq, Inhabited

namespace Window

def size (w : Window) : Int :=
  max (w.last - w.first + 1) 0

def isEmpty (w : Window) : Bool :=
  w.size = 0

/-- The block at a height is in the window. -/
def Covers (w : Window) (height : Int) : Prop :=
  w.first ≤ height ∧ height ≤ w.last

instance (w : Window) (height : Int) : Decidable (w.Covers height) :=
  inferInstanceAs (Decidable (_ ∧ _))

end Window

end ChainCrawl
