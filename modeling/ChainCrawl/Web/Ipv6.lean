import ChainCrawl.Text.Integer
import ChainCrawl.Text.Quoted
import ChainCrawl.Text.Split

namespace ChainCrawl.Web

/-- A network address of 128 bits, in pieces of 16 bits. -/
structure Ipv6 where
  pieces : Vector UInt16 8
  deriving DecidableEq

namespace Ipv6

def showPieces (pieces : List UInt16) : String :=
  ":".intercalate (pieces.map fun piece => String.ofList (Text.hexDigits piece.toNat))

/-- Where the first of the longest runs of noughts begins, and its length. -/
def longestGap (pieces : List UInt16) : Nat × Nat :=
  let runs := (List.range pieces.length).map fun start =>
    (start, ((pieces.drop start).takeWhile (· = 0)).length)
  runs.foldl (fun best run => if best.2 < run.2 then run else best) (0, 0)

/-- The pieces, where two colons take the place of a gap of at least two noughts. -/
def text (a : Ipv6) : String :=
  let pieces := a.pieces.toList
  let (start, length) := longestGap pieces
  if length < 2 then showPieces pieces
  else showPieces (pieces.take start) ++ "::" ++ showPieces (pieces.drop (start + length))

/-- One piece: up to four hexadecimal digits. -/
def piece? (cs : List Char) : Option UInt16 := do
  guard (!cs.isEmpty && cs.length ≤ 4)
  let digits ← cs.mapM (Text.digit? 16)
  return UInt16.ofNat (digits.foldl (fun n d => n * 16 + d) 0)

/-- A byte in decimal digits, without noughts in front. -/
def byte? (cs : List Char) : Option Nat := do
  guard (!cs.isEmpty && cs.all Char.isDigit && (cs.length = 1 || cs.head? ≠ some '0'))
  let n := Nat.ofDigitChars 10 cs 0
  guard (n < 256)
  return n

def byteForm? (cs : List Char) : Option (List UInt16) := do
  match ← (Text.splitWhere (· = '.') cs).mapM byte? with
  | [a, b, c, d] => return [UInt16.ofNat (256 * a + b), UInt16.ofNat (256 * c + d)]
  | _ => none

def front? (cs : List Char) : Option (List UInt16) :=
  if cs.isEmpty then some [] else (Text.splitWhere (· = ':') cs).mapM piece?

/-- The pieces at the end of an address, of which the last two may be written as bytes. -/
def back? (cs : List Char) : Option (List UInt16) :=
  match Text.cutAtLast? (· = ':') cs with
  | some (before, last) =>
    if last.contains '.' then do
      return (← (Text.splitWhere (· = ':') before).mapM piece?) ++ (← byteForm? last)
    else front? cs
  | none => if cs.contains '.' then byteForm? cs else front? cs

/-- The text before two colons and the text after them, if they occur. -/
def cutAtGap? : List Char → Option (List Char × List Char)
  | ':' :: ':' :: rest => some ([], rest)
  | c :: rest => (cutAtGap? rest).map fun (before, after) => (c :: before, after)
  | [] => none

def ofPieces? (pieces : List UInt16) : Option Ipv6 :=
  if h : pieces.length = 8 then some ⟨⟨pieces.toArray, by simpa using h⟩⟩ else none

/-- The address that a text writes: eight pieces of 16 bits in hexadecimal, between colons, of which
the last two may be written as four decimal bytes. Two colons stand for one nought at least. -/
def read? (cs : List Char) : Option Ipv6 :=
  match cutAtGap? cs with
  | some (before, after) => do
    let front ← front? before
    let back ← back? after
    let gap := 8 - (front.length + back.length)
    guard (1 ≤ gap)
    ofPieces? (front ++ List.replicate gap 0 ++ back)
  | none => do ofPieces? (← back? cs)

end Ipv6

end ChainCrawl.Web
