import ChainCrawl.Failure
import ChainCrawl.Json.Value

namespace ChainCrawl

/-- One event as an adapter found it. -/
structure Event where
  /-- Where it was found, by the adapter's own name for the place. -/
  endpoint : String
  payload : Json

/-- What a service tells of an identity. -/
structure Profile where
  identity : String
  name : Option String
  bio : Option String
  avatar : Option String
  links : List String
  deriving DecidableEq

/-- An adapter, by its place among the adapters and the name it writes into records. -/
structure AdapterRef where
  slot : Nat
  name : String
  deriving DecidableEq

/-- Which adapter serves a network, for one platform or for all others. An adapter talks to one
outside service and brings what it finds there into records. -/
structure AdapterTable where
  entries : List ((Network × Option Platform) × AdapterRef) := []

namespace AdapterTable

def add (t : AdapterTable) (network : Network) (platform : Option Platform)
    (adapter : AdapterRef) : AdapterTable :=
  ⟨((network, platform), adapter) :: t.entries⟩

/-- The adapter set last for a network and exactly this platform. -/
def entry? (t : AdapterTable) (network : Network) (platform : Option Platform) :
    Option AdapterRef :=
  (t.entries.find? (·.1 = (network, platform))).map (·.2)

/-- The adapter that serves an inquiry: the one for its platform, else the one for its network. -/
def select (t : AdapterTable) (network : Network) (platform : Option Platform) :
    Fallible AdapterRef :=
  match (t.entry? network platform).or (t.entry? network none) with
  | some adapter => .ok adapter
  | none => .error (.unserved network platform)

def serves (t : AdapterTable) (network : Network) (platform : Option Platform) : Bool :=
  ((t.entry? network platform).or (t.entry? network none)).isSome

end AdapterTable

end ChainCrawl
