import ChainCrawl.Text.Integer
import ChainCrawl.Text.Split

namespace ChainCrawl.Web

/-- A network address of 32 bits. -/
structure Ipv4 where
  bits : UInt32
  deriving DecidableEq

namespace Ipv4

/-- The four bytes, the highest one first. -/
def bytes (a : Ipv4) : List Nat :=
  [16777216, 65536, 256, 1].map fun unit => a.bits.toNat / unit % 256

def text (a : Ipv4) : String :=
  ".".intercalate (a.bytes.map toString)

/-- The number that digits to a base write; nought without digits. -/
def number? (base : Nat) (digits : List Char) : Option Nat :=
  (digits.mapM (Text.digit? base)).map fun values => values.foldl (fun n d => n * base + d) 0

/-- The number of a part: hexadecimal after `0x`, octal after a nought, otherwise decimal. -/
def part? : List Char → Option Nat
  | [] => none
  | '0' :: 'x' :: digits | '0' :: 'X' :: digits => number? 16 digits
  | '0' :: d :: digits => number? 8 (d :: digits)
  | digits => number? 10 digits

/-- The parts of a host name, without an empty one at the end. -/
def parts (name : List Char) : List (List Char) :=
  match (Text.splitWhere (· = '.') name).reverse with
  | [] :: rest => rest.reverse
  | all => all.reverse

/-- The last part of a host name is a number, so that the name is meant as an address. -/
def isMeant (name : List Char) : Bool :=
  match (parts name).getLast? with
  | none | some [] => false
  | some last => last.all Char.isDigit || (part? last).isSome

/-- Puts numbers together: each takes a byte, and the last one what is left of `room`. -/
def assemble? : (room : Nat) → List Nat → Option Nat
  | _, [] => none
  | room, [last] => if last < room then some last else none
  | room, n :: rest => do
    guard (n < 256)
    return n * (room / 256) + (← assemble? (room / 256) rest)

/-- The address that a host name writes in up to four numbers, of which the last one fills the bytes
that are left. Every number may be decimal, octal or hexadecimal. -/
def read? (name : List Char) : Option Ipv4 := do
  let numbers ← (parts name).mapM part?
  guard (numbers.length ≤ 4)
  return ⟨UInt32.ofNat (← assemble? 4294967296 numbers)⟩

end Ipv4

end ChainCrawl.Web
