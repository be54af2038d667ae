import ChainCrawl.Word

namespace ChainCrawl.Json

/-- The value of a numeral. -/
inductive Number where
  | int (i : Int)
  | float (x : Float)

/-- The parts of a numeral as written. -/
structure Numeral where
  negative : Bool
  /-- The digits before the point. -/
  whole : List Char
  /-- The digits after the point; none are written without a point. -/
  fraction : List Char
  /-- The exponent, if one is written. -/
  exponent : Option Int
  deriving DecidableEq

def digitValue (c : Char) : Nat :=
  c.toNat - '0'.toNat

/-- Appends digits to `start` while the value fits 64 bits; the second part counts the digits that
are left out. -/
def leadingDigits (start : Nat) : List Char → Nat × Nat
  | [] => (start, 0)
  | d :: rest =>
    let next := start * 10 + digitValue d
    if (next : Int) ≤ Word.maxUInt64 then leadingDigits next rest else (start, rest.length + 1)

def powerOfTen (e : Nat) : Float :=
  Float.ofScientific 1 false e

/-- The float `significand * 10 ^ exponent`, or none if it is beyond the largest float. -/
def scaled? (significand : Nat) (exponent : Int) : Option Float :=
  let x := significand.toUInt64.toFloat
  if significand = 0 then some 0.0
  else if 308 < exponent then none
  else if 0 ≤ exponent then
    let y := x * powerOfTen exponent.toNat
    if y.isInf then none else some y
  else if -308 ≤ exponent then some (x / powerOfTen (-exponent).toNat)
  else if -616 ≤ exponent then some (x / powerOfTen 308 / powerOfTen (-exponent - 308).toNat)
  else some 0.0

namespace Numeral

/-- No point and no exponent is written. -/
def isWhole (n : Numeral) : Bool :=
  n.fraction.isEmpty && n.exponent.isNone

/-- The float that the numeral stands for, or none if it is out of range. It is found from the
leading digits that fit 64 bits by one multiplication or division with a power of ten, so its last
bit may differ from the nearest float. -/
def float? (n : Numeral) : Option Float :=
  let (start, dropped) := leadingDigits 0 n.whole
  let (significand, unread) := leadingDigits start n.fraction
  let exponent : Int := dropped - (n.fraction.length - unread : Nat) + n.exponent.getD 0
  (scaled? significand exponent).map fun x => if n.negative then -x else x

/-- The value of the numeral, or none if it is out of range. A negative zero is a float. -/
def value? (n : Numeral) : Option Number :=
  if n.isWhole then
    match leadingDigits 0 n.whole with
    | (magnitude, 0) =>
      if !n.negative then some (.int magnitude)
      else if 0 < magnitude && Word.minInt64 ≤ -(magnitude : Int) then some (.int (-magnitude))
      else some (.float (-magnitude.toUInt64.toFloat))
    | _ => n.float?.map .float
  else n.float?.map .float

end Numeral

end ChainCrawl.Json
