import ChainCrawl.Network

namespace ChainCrawl

/-- The services that an adapter can be made for. -/
inductive Service where
  | etherscan
  deriving DecidableEq

namespace Service

def all : List Service :=
  [etherscan]

def name : Service → String
  | etherscan => "etherscan"

def cases : List (String × Service) :=
  all.map fun s => (s.name, s)

end Service

/-- A source: what is polled, where, and how fast. -/
structure Source where
  /-- With the network, the name of the source's cursor. -/
  key : String
  network : Network
  adapter : Service
  /-- The address that the loop scans. -/
  target : String
  explorerUrl : String
  startHeight : Int
  /-- The height difference between the ends of a full window. -/
  step : Int
  /-- The same for the smallest window. -/
  minStep : Int
  /-- How many blocks below the head a block counts as final. -/
  confirmations : Int
  sleepSecs : UInt64
  pollSecs : UInt64
  enabled : Bool
  deriving DecidableEq

namespace Source

def sleepMillis (s : Source) : Nat :=
  s.sleepSecs.toNat * 1000

def pollMillis (s : Source) : Nat :=
  s.pollSecs.toNat * 1000

end Source

end ChainCrawl
