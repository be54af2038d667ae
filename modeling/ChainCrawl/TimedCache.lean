namespace ChainCrawl

/-- Values that are kept for a limited time, on a clock in milliseconds that never goes back. An
entry is fresh while less time than `lifetime` has passed since it was made. -/
structure TimedCache (κ ν : Type) where
  lifetime : Nat
  /-- The entries with the time when each was made, one for each key. -/
  entries : List (κ × Nat × ν)

namespace TimedCache

variable {κ ν : Type} [DecidableEq κ]

def empty (lifetime : Nat) : TimedCache κ ν :=
  ⟨lifetime, []⟩

/-- An entry made at `made` still counts at `now`. -/
def isFresh (c : TimedCache κ ν) (now made : Nat) : Bool :=
  now - made < c.lifetime

def get? (c : TimedCache κ ν) (now : Nat) (key : κ) : Option ν :=
  match c.entries.find? (·.1 = key) with
  | some (_, made, value) => if c.isFresh now made then some value else none
  | none => none

def erase (c : TimedCache κ ν) (key : κ) : TimedCache κ ν :=
  { c with entries := c.entries.filter (·.1 ≠ key) }

def insert (c : TimedCache κ ν) (now : Nat) (key : κ) (value : ν) : TimedCache κ ν :=
  { c with entries := (key, now, value) :: (c.erase key).entries }

/-- Drops a key, and says whether it had an entry, fresh or not. -/
def discard (c : TimedCache κ ν) (key : κ) : Bool × TimedCache κ ν :=
  (c.entries.any (·.1 = key), c.erase key)

omit [DecidableEq κ] in
/-- Drops the entries that are no longer fresh, and says how many. -/
def prune (c : TimedCache κ ν) (now : Nat) : Nat × TimedCache κ ν :=
  let kept := c.entries.filter fun entry => c.isFresh now entry.2.1
  (c.entries.length - kept.length, { c with entries := kept })

omit [DecidableEq κ] in
def size (c : TimedCache κ ν) : Nat :=
  c.entries.length

end TimedCache

end ChainCrawl
