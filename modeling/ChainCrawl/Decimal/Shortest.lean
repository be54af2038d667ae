namespace ChainCrawl.Decimal

/-- The magnitude `significand * 2 ^ exponent`. -/
structure Binary where
  significand : Nat
  exponent : Int
  /-- The next smaller magnitude is half as far away as the next larger one. -/
  atBinade : Bool
  deriving DecidableEq

/-- The decimal `digits * 10 ^ exponent`. -/
structure Scaled where
  digits : Nat
  exponent : Int
  deriving DecidableEq

def signBit : Nat := Nat.pow 2 63

/-- The leading bit of a normal significand, which a float does not hold. -/
def leadingBit : Nat := Nat.pow 2 52

def Binary.ofFloat (x : Float) : Binary :=
  let bits := x.toBits.toNat % signBit
  let fraction := bits % leadingBit
  match bits / leadingBit with
  | 0 => ⟨fraction, -1074, false⟩
  | biased + 1 => ⟨fraction + leadingBit, biased - 1074, fraction == 0 && biased != 0⟩

def powerRatio (base : Nat) (exponent : Int) : Nat × Nat :=
  (Nat.pow base exponent.toNat, Nat.pow base (-exponent).toNat)

/-- The interval of reals that round to the magnitude, in quarters of its last binary place. -/
structure Quarters where
  low : Nat
  value : Nat
  high : Nat
  closed : Bool

/-- The reals that round to a magnitude: an interval, with its ends where the significand is even.
-/
def Binary.quarters (b : Binary) : Quarters where
  low := 4 * b.significand - (if b.atBinade then 1 else 2)
  value := 4 * b.significand
  high := 4 * b.significand + 2
  closed := b.significand % 2 == 0

/-- The exponent of the leading decimal digit of a nonzero magnitude. -/
def Binary.leading (b : Binary) : Int :=
  let (up, down) := powerRatio 2 b.exponent
  ((Nat.toDigits 10 (b.significand * up * Nat.pow 10 400 / down)).length : Int) - 401

/-- The decimal with exponent `e` nearest to the magnitude among those inside its interval. -/
def Binary.onGrid? (b : Binary) (e : Int) : Option Scaled :=
  let (tenUp, tenDown) := powerRatio 10 e
  let (twoUp, twoDown) := powerRatio 2 (b.exponent - 2)
  let place := tenUp * twoDown
  let quarter := twoUp * tenDown
  let range := b.quarters
  let inside (n : Nat) : Bool :=
    if range.closed then range.low * quarter ≤ n * place && n * place ≤ range.high * quarter
    else range.low * quarter < n * place && n * place < range.high * quarter
  let below := range.value * quarter / place
  let rest := range.value * quarter - below * place
  match inside below, inside (below + 1) with
  | false, false => none
  | true, false => some ⟨below, e⟩
  | false, true => some ⟨below + 1, e⟩
  | true, true =>
    if 2 * rest < place || (2 * rest == place && below % 2 == 0) then some ⟨below, e⟩
    else some ⟨below + 1, e⟩

/-- The shortest decimal that reads back as a nonzero magnitude. Of all decimals in the interval of
the magnitude one with the fewest digits is taken, and of those the nearest. -/
def Binary.shortest (b : Binary) : Scaled :=
  ((List.range 17).findSome? fun places => b.onGrid? (b.leading - (places : Nat))).getD ⟨0, 0⟩

/-- The same decimal without zeros at the end. -/
def Scaled.dropZeros : (fuel : Nat) → Scaled → Scaled
  | 0, s => s
  | fuel + 1, s =>
    if s.digits ≠ 0 && s.digits % 10 == 0 then dropZeros fuel ⟨s.digits / 10, s.exponent + 1⟩ else s

/-- The shortest decimal of a finite float's magnitude; zero has the decimal zero. -/
def shortestOf (x : Float) : Scaled :=
  let b := Binary.ofFloat x
  if b.significand = 0 then ⟨0, 0⟩ else b.shortest.dropZeros 20

/-- Where a format leaves positional notation. -/
structure Layout where
  /-- The least and the greatest position of the point, counted from the first digit, that are
  written without an exponent; no limits mean no exponent ever. -/
  positional : Option (Int × Int)

/-- Digits with the point after `point` of them, zeros filled in on either side. -/
def positional (digits : List Char) (point : Int) : List Char :=
  if point ≤ 0 then ['0', '.'] ++ List.replicate (-point).toNat '0' ++ digits
  else
    let whole := digits.take point.toNat
    let fraction := digits.drop point.toNat
    whole ++ List.replicate (point.toNat - whole.length) '0' ++ '.' ::
      (if fraction.isEmpty then ['0'] else fraction)

/-- Digits with the point after the first one and an exponent, which always has a sign. -/
def scientific (digits : List Char) (exponent : Int) : List Char :=
  let power := (if 0 ≤ exponent then ['+'] else []) ++ (toString exponent).toList
  match digits with
  | [] => []
  | [d] => d :: 'e' :: power
  | d :: more => d :: '.' :: more ++ 'e' :: power

def render (layout : Layout) (x : Float) : String :=
  if x.isNaN then "NaN"
  else
    let sign := if signBit ≤ x.toBits.toNat then ['-'] else []
    if x.isInf then String.ofList (sign ++ ['i', 'n', 'f'])
    else
      let s := shortestOf x
      let digits := Nat.toDigits 10 s.digits
      let point : Int := digits.length + s.exponent
      let fits := match layout.positional with
        | none => true
        | some (least, greatest) => least ≤ point && point ≤ greatest
      let written := if fits then positional digits point else scientific digits (point - 1)
      String.ofList (sign ++ written)

end ChainCrawl.Decimal
