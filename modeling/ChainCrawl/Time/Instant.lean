import ChainCrawl.Time.Date

namespace ChainCrawl.Time

/-- The first second of the year -262143. -/
def firstSecond : Int := -8334601228800

/-- The last second of the year 262142. -/
def lastSecond : Int := 8210266876799

/-- A point in time between the years -262143 and 262142: whole seconds of Unix time and nanoseconds
within the second. The last second of a minute may be a leap second, which holds a second thousand
million of nanoseconds. -/
structure Instant where
  seconds : Int
  nanos : Nat
  first_le : firstSecond ≤ seconds
  le_last : seconds ≤ lastSecond
  nanos_lt : nanos < 2000000000
  leap : 1000000000 ≤ nanos → seconds % 60 = 59
  deriving DecidableEq

namespace Instant

def ofUnix? (seconds : Int) (nanos : Nat) : Option Instant :=
  if h : firstSecond ≤ seconds ∧ seconds ≤ lastSecond ∧ nanos < 2000000000 ∧
      (1000000000 ≤ nanos → seconds % 60 = 59) then
    some ⟨seconds, nanos, h.1, h.2.1, h.2.2.1, h.2.2.2⟩
  else none

def epoch : Instant :=
  ⟨0, 0, by decide, by decide, by decide, by decide⟩

instance : Inhabited Instant := ⟨epoch⟩

def before (a b : Instant) : Bool :=
  a.seconds < b.seconds || (a.seconds == b.seconds && a.nanos < b.nanos)

/-- The later of two instants. -/
def latest (a b : Instant) : Instant :=
  if a.before b then b else a

theorem ofUnix?_seconds_nanos (t : Instant) : ofUnix? t.seconds t.nanos = some t := by
  exact dif_pos ⟨t.first_le, t.le_last, t.nanos_lt, t.leap⟩

end Instant

end ChainCrawl.Time
