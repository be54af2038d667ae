import ChainCrawl.Failure

namespace ChainCrawl

/-- A failure of an explorer. -/
inductive ExplorerFailure where
  /-- No usable answer came. -/
  | network (message : String)
  /-- The explorer refused. -/
  | api (status : Nat) (message : String)
  /-- The explorer asked for fewer requests. -/
  | throttled (message : String)
  /-- The blocks hold more items than the explorer pages through. -/
  | overfull (firstBlock lastBlock : Int) (limit : Nat)
  /-- The answer has not the shape that was agreed. -/
  | parse (message : String)
  deriving DecidableEq

namespace ExplorerFailure

def text : ExplorerFailure → String
  | network message => s!"Network error: {message}"
  | api status message => s!"API error (status {status}): {message}"
  | throttled message => s!"Rate limited: {message}"
  | overfull firstBlock lastBlock limit =>
    s!"Window too large: blocks {firstBlock}..={lastBlock} exceed {limit} items"
  | parse message => s!"Parse error: {message}"

def toFailure : ExplorerFailure → Failure
  | throttled message => .throttled message
  | overfull firstBlock lastBlock limit =>
    .overfull (overfull firstBlock lastBlock limit).text
  | other => .unavailable other.text

end ExplorerFailure

end ChainCrawl
