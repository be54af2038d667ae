namespace ChainCrawl.Time

/-- A year, a month from 1 to 12 and a day from 1. -/
structure Date where
  year : Int
  month : Int
  day : Int
  deriving DecidableEq

namespace Date

def eraDays : Int := 146097

/-- The days from the start of era 0, which is 0000-03-01, to 1970-01-01. -/
def epochDay : Int := 719468

/-- The date of a day number, in the Gregorian calendar carried on without end in both directions.
The year is counted from March within eras of 400 years. -/
def ofDays (n : Int) : Date :=
  let z := n + epochDay
  let era := z / eraDays
  let dayOfEra := z % eraDays
  let yearOfEra := (dayOfEra - dayOfEra / 1460 + dayOfEra / 36524 - dayOfEra / 146096) / 365
  let dayOfYear := dayOfEra - (365 * yearOfEra + yearOfEra / 4 - yearOfEra / 100)
  let shifted := (5 * dayOfYear + 2) / 153
  let day := dayOfYear - (153 * shifted + 2) / 5 + 1
  let month := if shifted < 10 then shifted + 3 else shifted - 9
  ⟨yearOfEra + era * 400 + (if month ≤ 2 then 1 else 0), month, day⟩

def toDays (d : Date) : Int :=
  let year := if d.month ≤ 2 then d.year - 1 else d.year
  let era := year / 400
  let yearOfEra := year % 400
  let shifted := if 2 < d.month then d.month - 3 else d.month + 9
  let dayOfYear := (153 * shifted + 2) / 5 + d.day - 1
  let dayOfEra := yearOfEra * 365 + yearOfEra / 4 - yearOfEra / 100 + dayOfYear
  era * eraDays + dayOfEra - epochDay

/-- The calendar has this date: it is the date of its own day number. -/
def exists? (d : Date) : Bool :=
  ofDays d.toDays = d

end Date

end ChainCrawl.Time
