namespace ChainCrawl

/-- A chain or data network. -/
inductive Network where
  | ethereum
  | polygon
  | binanceSmartChain
  | arbitrum
  | optimism
  | xdai
  | zkSync
  | arweave
  deriving DecidableEq, Inhabited

namespace Network

/-- All networks, in the order in which messages list them. -/
def all : List Network :=
  [ethereum, polygon, binanceSmartChain, arbitrum, optimism, xdai, zkSync, arweave]

def name : Network → String
  | ethereum => "ethereum"
  | polygon => "polygon"
  | binanceSmartChain => "binance_smart_chain"
  | arbitrum => "arbitrum"
  | optimism => "optimism"
  | xdai => "xdai"
  | zkSync => "zk_sync"
  | arweave => "arweave"

def cases : List (String × Network) :=
  all.map fun n => (n.name, n)

def ofName? (s : String) : Option Network :=
  all.find? (·.name = s)

/-- The networks that read addresses without regard to case. -/
def foldsCase : Network → Bool
  | arweave => false
  | _ => true

theorem ofName?_name (n : Network) : ofName? n.name = some n := by
  cases n <;> rfl

end Network

/-- An application on top of a network. -/
inductive Platform where
  | gitcoin
  | mirror
  | lens
  | crossbell
  deriving DecidableEq, Inhabited

namespace Platform

/-- All platforms, in the order in which messages list them. -/
def all : List Platform :=
  [gitcoin, mirror, lens, crossbell]

def name : Platform → String
  | gitcoin => "gitcoin"
  | mirror => "mirror"
  | lens => "lens"
  | crossbell => "crossbell"

def cases : List (String × Platform) :=
  all.map fun p => (p.name, p)

def ofName? (s : String) : Option Platform :=
  all.find? (·.name = s)

theorem ofName?_name (p : Platform) : ofName? p.name = some p := by
  cases p <;> rfl

end Platform

/-- What a record is about. -/
inductive ActivityKind where
  /-- Something that happened: a transfer, a donation, a post. -/
  | note
  /-- Something that an identity holds. -/
  | asset
  /-- A content item by itself. -/
  | item
  deriving DecidableEq, Inhabited

namespace ActivityKind

/-- All kinds, in the order in which messages list them. -/
def all : List ActivityKind :=
  [note, asset, item]

def name : ActivityKind → String
  | note => "note"
  | asset => "asset"
  | item => "item"

def cases : List (String × ActivityKind) :=
  all.map fun k => (k.name, k)

def ofName? (s : String) : Option ActivityKind :=
  all.find? (·.name = s)

end ActivityKind

end ChainCrawl
