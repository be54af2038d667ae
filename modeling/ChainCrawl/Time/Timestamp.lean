import ChainCrawl.Text.Blank
import ChainCrawl.Text.Scan
import ChainCrawl.Time.Instant

namespace ChainCrawl.Time

def padded (width n : Nat) : List Char :=
  let digits := Nat.toDigits 10 n
  List.replicate (width - digits.length) '0' ++ digits

/-- A year; outside 0 to 9999 it has a sign. -/
def renderYear (year : Int) : List Char :=
  if 0 ≤ year ∧ year ≤ 9999 then padded 4 year.toNat
  else (if year < 0 then '-' else '+') :: padded 4 year.natAbs

/-- The decimals of a second: none, three, six or nine. -/
def renderFraction (nanos : Nat) : List Char :=
  if nanos = 0 then []
  else if nanos % 1000000 = 0 then '.' :: padded 3 (nanos / 1000000)
  else if nanos % 1000 = 0 then '.' :: padded 6 (nanos / 1000)
  else '.' :: padded 9 nanos

namespace Instant

def day (t : Instant) : Int :=
  t.seconds / 86400

def secondOfDay (t : Instant) : Nat :=
  (t.seconds % 86400).toNat

def render (t : Instant) : List Char :=
  let date := Date.ofDays t.day
  let leap := 1000000000 ≤ t.nanos
  let second := t.secondOfDay % 60 + (if leap then 1 else 0)
  let nanos := if leap then t.nanos - 1000000000 else t.nanos
  renderYear date.year ++ '-' :: padded 2 date.month.toNat ++ '-' :: padded 2 date.day.toNat ++
    'T' :: padded 2 (t.secondOfDay / 3600) ++ ':' :: padded 2 (t.secondOfDay / 60 % 60) ++
    ':' :: padded 2 second ++ renderFraction nanos ++ ['Z']

/-- The text of an instant, as `2021-03-29T06:40:00.250Z`. It is written in UTC with the fewest
groups of three decimals that lose nothing, a leap second as `:60`, and a year outside 0000 to 9999
with its sign. -/
def text (t : Instant) : String :=
  String.ofList t.render

end Instant

namespace Read

open Text (Scan decimal)

def blanks : Scan Unit := fun cs => some ((), Text.skipBlanks cs)

def field (least greatest : Nat) : Scan Nat := do
  blanks
  let n := decimal (← Scan.takeUpTo 2 Char.isDigit)
  guard (least ≤ n && n ≤ greatest)
  return n

/-- A year: up to four digits, or a sign and any number of them. -/
def year : Scan Int := do
  blanks
  let cs ← get
  match cs with
  | '-' :: rest =>
    set rest
    return -(decimal (← Scan.takeUpTo rest.length Char.isDigit))
  | '+' :: rest =>
    set rest
    return decimal (← Scan.takeUpTo rest.length Char.isDigit)
  | _ => return decimal (← Scan.takeUpTo 4 Char.isDigit)

def separator (c : Char) : Scan Unit := do
  blanks
  Scan.char c

/-- The nanoseconds of a fraction, if there is one; digits after the ninth are passed over. -/
def fraction : Scan Nat := do
  match ← Scan.peek with
  | some '.' =>
    Scan.char '.'
    let found ← Scan.takeUpTo 9 Char.isDigit
    let _ ← Scan.takeWhile Char.isDigit
    return decimal found * Nat.pow 10 (9 - found.length)
  | _ => return 0

/-- Two digits, of which the first is at most `tens`. -/
def twoDigits (tens : Char) : Scan Nat := do
  let a ← Scan.satisfy fun c => c.isDigit && c ≤ tens
  let b ← Scan.satisfy Char.isDigit
  return decimal [a, b]

/-- The sign of an offset; `true` is west of Greenwich. -/
def sign : Scan Bool := do
  let c ← Scan.satisfy fun c => c = '+' || c = '-' || c = '\u2212'
  return c != '+'

/-- An offset in hours and minutes, in seconds. -/
def signedOffset : Scan Int := do
  let west ← sign
  let hours ← twoDigits '9'
  let _ ← Scan.takeWhile fun c => c = ':' || Text.isBlank c
  let minutes ← twoDigits '5'
  guard (hours < 24)
  let seconds : Int := hours * 3600 + minutes * 60
  return if west then -seconds else seconds

/-- The offset from UTC in seconds. -/
def offset : Scan Int := do
  let cs ← get
  if (cs.take 3).map Char.toLower = ['u', 't', 'c'] then
    set (cs.drop 3)
    return 0
  else if cs.head? = some 'Z' || cs.head? = some 'z' then
    set (cs.drop 1)
    return 0
  else signedOffset

def yearRange (year : Int) : Bool :=
  -262143 ≤ year && year ≤ 262142

def instant : Scan Instant := do
  let year ← year
  separator '-'
  let month ← field 1 12
  separator '-'
  let day ← field 1 31
  let _ ← Scan.satisfy fun c => c = 'T' || c = 't' || c = ' '
  let hour ← field 0 23
  separator ':'
  let minute ← field 0 59
  separator ':'
  let second ← field 0 60
  let nanos ← fraction
  blanks
  let offset ← offset
  blanks
  let date : Date := ⟨year, month, day⟩
  guard (yearRange year && date.exists?)
  let leap := second = 60
  let civil : Int := date.toDays * 86400 + hour * 3600 + minute * 60 +
    (if leap then 59 else second : Nat)
  StateT.lift (Instant.ofUnix? (civil - offset) (if leap then nanos + 1000000000 else nanos))

end Read

/-- The instant that a text writes. It is read more freely than it is written: with blanks around
the parts, a space or a small letter between date and time, and any offset from UTC. -/
def Instant.read? (s : String) : Option Instant :=
  Read.instant.all s

end ChainCrawl.Time
