import ChainCrawl.Network
import ChainCrawl.Text.Blank
import ChainCrawl.Text.Lowercase
import ChainCrawl.Time.Instant
import ChainCrawl.Window

namespace ChainCrawl

/-- An inquiry after one identity on one network. Only a source's own loop sets a window. -/
structure Inquiry where
  identity : String
  network : Network
  platform : Option Platform
  limit : Option UInt32
  since : Option Time.Instant
  window : Option Window
  deriving DecidableEq

namespace Inquiry

/-- An identity as it is asked for: without blanks around it, and in small letters where it is an
address of a network that reads addresses without regard to case. -/
def normalIdentity (identity : String) (network : Network) : String :=
  let trimmed := Text.trim identity
  if network.foldsCase && ['0', 'x'].isPrefixOf trimmed.toList then Text.lowercase trimmed
  else trimmed

def of (identity : String) (network : Network) : Inquiry where
  identity := normalIdentity identity network
  network := network
  platform := none
  limit := none
  since := none
  window := none

def withoutWindow (p : Inquiry) : Inquiry :=
  { p with window := none }

end Inquiry

end ChainCrawl
