import ChainCrawl.Source

namespace ChainCrawl

/-- How visits are kept and gone through. -/
structure SweepSettings where
  /-- Visits older than this are dropped before each pass. -/
  retentionSecs : UInt64 := 86400
  pageSize : UInt32 := 100
  /-- The pause between two passes. -/
  intervalSecs : UInt64 := 900
  deriving DecidableEq

/-- A configuration. -/
structure Config where
  /-- The most connections to the database at a time. -/
  maxConnections : UInt32
  sweep : SweepSettings
  sources : List Source
  deriving DecidableEq

namespace Config

def defaultConnections : UInt32 := 10

def polledSources (c : Config) : List Source :=
  c.sources.filter (·.enabled)

end Config

end ChainCrawl
