import ChainCrawl.Word

namespace ChainCrawl.Text

/-- Why a text is no whole number within the bounds. -/
inductive IntegerFault where
  | empty
  | invalidDigit
  | tooLarge
  | tooSmall
  deriving DecidableEq

def IntegerFault.message : IntegerFault → String
  | empty => "cannot parse integer from empty string"
  | invalidDigit => "invalid digit found in string"
  | tooLarge => "number too large to fit in target type"
  | tooSmall => "number too small to fit in target type"

/-- The value of a digit to a base of at most sixteen. -/
def digit? (base : Nat) (c : Char) : Option Nat :=
  let value? : Option Nat :=
    if '0' ≤ c && c ≤ '9' then some (c.toNat - '0'.toNat)
    else if 'a' ≤ c && c ≤ 'f' then some (c.toNat - 'a'.toNat + 10)
    else if 'A' ≤ c && c ≤ 'F' then some (c.toNat - 'A'.toNat + 10)
    else none
  value?.filter (· < base)

/-- Appends digits to `acc`, upwards to `greatest`. -/
def readUp (base : Nat) (greatest : Int) (acc : Int) : List Char → Except IntegerFault Int
  | [] => .ok acc
  | c :: rest =>
    match digit? base c with
    | none => .error .invalidDigit
    | some d =>
      let next := acc * base + d
      if next ≤ greatest then readUp base greatest next rest else .error .tooLarge

/-- Appends digits to `acc`, downwards to `least`. -/
def readDown (base : Nat) (least : Int) (acc : Int) : List Char → Except IntegerFault Int
  | [] => .ok acc
  | c :: rest =>
    match digit? base c with
    | none => .error .invalidDigit
    | some d =>
      let next := acc * base - d
      if least ≤ next then readDown base least next rest else .error .tooSmall

/-- The whole number that a text writes to a base within two bounds, with one sign in front. Only
bounds below zero admit a minus sign. The digits are taken from left to right, and the first one
that is wrong or leads out of the bounds is the fault. -/
def readInteger (base : Nat) (least greatest : Int) : List Char → Except IntegerFault Int
  | [] => .error .empty
  | ['+'] | ['-'] => .error .invalidDigit
  | '+' :: rest => readUp base greatest 0 rest
  | '-' :: rest =>
    if least < 0 then readDown base least 0 rest else .error .invalidDigit
  | cs => readUp base greatest 0 cs

def int64? (s : String) : Option Int :=
  (readInteger 10 Word.minInt64 Word.maxInt64 s.toList).toOption

def uint32? (s : String) : Option Nat :=
  (readInteger 10 0 Word.maxUInt32 s.toList).toOption.map Int.toNat

end ChainCrawl.Text
