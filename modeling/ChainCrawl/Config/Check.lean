import ChainCrawl.Config.Basic
import ChainCrawl.Failure

namespace ChainCrawl

/-- A rule that a source breaks, given the sources before it. -/
inductive SourceFault where
  /-- A source before it uses another explorer on the same network. -/
  | otherExplorer (used : String)
  /-- A source before it has the same key on the same network. -/
  | duplicateKey
  | noMinStep
  | stepBelowMinStep
  | negativeHeight
  deriving DecidableEq

/-- A rule that a configuration breaks. -/
inductive ConfigFault where
  | emptyPages
  | noRetention
  | source (s : Source) (fault : SourceFault)
  deriving DecidableEq

def SourceFault.text (s : Source) : SourceFault → String
  | otherExplorer used =>
    s!"source '{s.key}': {s.network.name} already uses explorer {used}, got {s.explorerUrl}"
  | duplicateKey => s!"duplicate source key '{s.key}' on {s.network.name}"
  | noMinStep => s!"source '{s.key}': min_step must be >= 1"
  | stepBelowMinStep => s!"source '{s.key}': step ({s.step}) must be >= min_step ({s.minStep})"
  | negativeHeight =>
    s!"source '{s.key}': confirmations and start_height must be non-negative"

def ConfigFault.text : ConfigFault → String
  | emptyPages => "recrawl.page_size must be >= 1"
  | noRetention => "recrawl.retention_secs must be >= 1"
  | source s fault => fault.text s

def ConfigFault.toFailure (fault : ConfigFault) : Failure :=
  .config fault.text

namespace Source

def explorerOn? (earlier : List Source) (network : Network) : Option String :=
  (earlier.find? (·.network = network)).map (·.explorerUrl)

/-- The first rule that a source breaks after the sources before it. -/
def fault? (earlier : List Source) (s : Source) : Option SourceFault :=
  let used := (explorerOn? earlier s.network).getD s.explorerUrl
  if used ≠ s.explorerUrl then some (.otherExplorer used)
  else if earlier.any fun e => e.key = s.key && e.network = s.network then some .duplicateKey
  else if s.minStep < 1 then some .noMinStep
  else if s.step < s.minStep then some .stepBelowMinStep
  else if s.confirmations < 0 || s.startHeight < 0 then some .negativeHeight
  else none

/-- The first fault among sources that follow others. -/
def firstFault? (earlier : List Source) : List Source → Option ConfigFault
  | [] => none
  | s :: rest =>
    match s.fault? earlier with
    | some fault => some (.source s fault)
    | none => firstFault? (earlier ++ [s]) rest

end Source

/-- What the sources that were let in have taken: an explorer for each of their networks, and their
keys. Adapters are found by their network, so one network has one explorer; cursors are found by key
and network, so no two sources share both. -/
structure Roster where
  explorers : List (Network × String) := []
  keys : List (String × Network) := []
  deriving DecidableEq

namespace Roster

variable (roster : Roster)

def explorer? (network : Network) : Option String :=
  roster.explorers.lookup network

/-- The roster after a source was let in. The first source on a network chooses its explorer. -/
def add (s : Source) : Roster where
  explorers := match roster.explorer? s.network with
    | some _ => roster.explorers
    | none => (s.network, s.explorerUrl) :: roster.explorers
  keys := (s.key, s.network) :: roster.keys

/-- Lets a source in, unless it breaks a rule. -/
def enlist (s : Source) : Except SourceFault Roster :=
  let used := (roster.explorer? s.network).getD s.explorerUrl
  if used ≠ s.explorerUrl then .error (.otherExplorer used)
  else if (s.key, s.network) ∈ roster.keys then .error .duplicateKey
  else if s.minStep < 1 then .error .noMinStep
  else if s.step < s.minStep then .error .stepBelowMinStep
  else if s.confirmations < 0 || s.startHeight < 0 then .error .negativeHeight
  else .ok (roster.add s)

/-- Lets sources in one after the other, up to the first that breaks a rule. -/
def enlistAll (roster : Roster) : List Source → Except ConfigFault Roster
  | [] => .ok roster
  | s :: rest =>
    match roster.enlist s with
    | .error fault => .error (.source s fault)
    | .ok roster => enlistAll roster rest

end Roster

namespace Config

/-- Refuses a configuration that the loops cannot run with, with the first fault of it. The sources
are gone through once, each against what those before it have taken. -/
def check (c : Config) : Except ConfigFault Unit :=
  if c.sweep.pageSize = 0 then .error .emptyPages
  else if c.sweep.retentionSecs = 0 then .error .noRetention
  else (Roster.enlistAll {} c.sources).map fun _ => ()

/-- The first rule that a configuration breaks. -/
def fault? (c : Config) : Option ConfigFault :=
  if c.sweep.pageSize = 0 then some .emptyPages
  else if c.sweep.retentionSecs = 0 then some .noRetention
  else Source.firstFault? [] c.sources

/-- The loops can run with the configuration. -/
def Valid (c : Config) : Prop :=
  c.fault? = none

instance (c : Config) : Decidable c.Valid :=
  inferInstanceAs (Decidable (_ = _))

end Config

end ChainCrawl
