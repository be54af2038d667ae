import ChainCrawl.Failure

namespace ChainCrawl

/-- A failure of a table, which has then changed nothing. -/
inductive TableFailure where
  | database (message : String)
  | serialization (message : String)
  /-- What was stored cannot be read back. -/
  | corrupt (message : String)
  deriving DecidableEq

namespace TableFailure

def text : TableFailure → String
  | database message => s!"Database error: {message}"
  | serialization message => s!"Serialization error: {message}"
  | corrupt message => s!"Corrupt row: {message}"

def toFailure (e : TableFailure) : Failure :=
  .storage e.text

end TableFailure

end ChainCrawl
