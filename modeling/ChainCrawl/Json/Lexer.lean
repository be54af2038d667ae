import ChainCrawl.Json.Document
import ChainCrawl.Json.Numeral

namespace ChainCrawl.Json

/-- A token. A broken string has half of a surrogate pair; a broken number is out of range. -/
inductive Token where
  | openArray
  | closeArray
  | openObject
  | closeObject
  | comma
  | colon
  | null
  | bool (b : Bool)
  | number (value : Option Number)
  | text (content : Option String)

/-- What one element of a quoted text stands for: a character, or by escape a unit of sixteen
bits. -/
inductive Piece where
  | char (c : Char)
  | unit (n : Nat)
  deriving DecidableEq

def hexValue? (c : Char) : Option Nat :=
  if '0' ≤ c && c ≤ '9' then some (c.toNat - '0'.toNat)
  else if 'a' ≤ c && c ≤ 'f' then some (c.toNat - 'a'.toNat + 10)
  else if 'A' ≤ c && c ≤ 'F' then some (c.toNat - 'A'.toNat + 10)
  else none

def hexUnit? (a b c d : Char) : Option Nat := do
  let a ← hexValue? a
  let b ← hexValue? b
  let c ← hexValue? c
  let d ← hexValue? d
  return ((a * 16 + b) * 16 + c) * 16 + d

/-- The character that a letter after a backslash stands for. -/
def escaped? : Char → Option Char
  | '"' => some '"'
  | '\\' => some '\\'
  | '/' => some '/'
  | 'b' => some '\x08'
  | 'f' => some '\x0c'
  | 'n' => some '\n'
  | 'r' => some '\r'
  | 't' => some '\t'
  | _ => none

/-- The pieces up to the closing quote, and what follows it. -/
def scanText : List Char → Option (List Piece × List Char)
  | [] => none
  | '"' :: rest => some ([], rest)
  | '\\' :: 'u' :: a :: b :: c :: d :: rest => do
    let n ← hexUnit? a b c d
    let (pieces, after) ← scanText rest
    return (.unit n :: pieces, after)
  | '\\' :: c :: rest => do
    let c ← escaped? c
    let (pieces, after) ← scanText rest
    return (.char c :: pieces, after)
  | c :: rest =>
    if c.toNat < 0x20 then none
    else do
      let (pieces, after) ← scanText rest
      return (.char c :: pieces, after)

def isHighSurrogate (n : Nat) : Bool := 0xD800 ≤ n && n ≤ 0xDBFF

def isLowSurrogate (n : Nat) : Bool := 0xDC00 ≤ n && n ≤ 0xDFFF

/-- The characters of a text, or none if half of a surrogate pair stands alone. -/
def joinPieces : List Piece → Option (List Char)
  | [] => some []
  | .char c :: rest => (joinPieces rest).map (c :: ·)
  | .unit high :: .unit low :: rest =>
    if isHighSurrogate high then
      if isLowSurrogate low then
        (joinPieces rest).map
          (Char.ofNat (0x10000 + (high - 0xD800) * 0x400 + (low - 0xDC00)) :: ·)
      else none
    else if isLowSurrogate high then none
    else (joinPieces (.unit low :: rest)).map (Char.ofNat high :: ·)
  | .unit n :: rest =>
    if isHighSurrogate n || isLowSurrogate n then none
    else (joinPieces rest).map (Char.ofNat n :: ·)

def scanDigits (cs : List Char) : List Char × List Char :=
  (cs.takeWhile Char.isDigit, cs.dropWhile Char.isDigit)

/-- The whole part of a number: a single zero, or digits that start with another one. -/
def scanWhole : List Char → Option (List Char × List Char)
  | '0' :: rest => some (['0'], rest)
  | cs =>
    match scanDigits cs with
    | ([], _) => none
    | found => some found

/-- The digits after a point, which must be there if the point is. -/
def scanFraction : List Char → Option (List Char × List Char)
  | '.' :: rest =>
    match scanDigits rest with
    | ([], _) => none
    | found => some found
  | cs => some ([], cs)

def readDigits (digits : List Char) : Nat :=
  Nat.ofDigitChars 10 digits 0

def scanPower (cs : List Char) : Option (Int × List Char) :=
  let (negative, cs) := match cs with
    | '-' :: rest => (true, rest)
    | '+' :: rest => (false, rest)
    | _ => (false, cs)
  match scanDigits cs with
  | ([], _) => none
  | (digits, rest) => some (if negative then -(readDigits digits) else readDigits digits, rest)

def scanExponent : List Char → Option (Option Int × List Char)
  | 'e' :: rest => (scanPower rest).map fun (power, after) => (some power, after)
  | 'E' :: rest => (scanPower rest).map fun (power, after) => (some power, after)
  | cs => some (none, cs)

/-- A number without its sign, and what follows it. -/
def scanMagnitude (negative : Bool) (cs : List Char) : Option (Numeral × List Char) := do
  let (whole, cs) ← scanWhole cs
  let (fraction, cs) ← scanFraction cs
  let (exponent, cs) ← scanExponent cs
  return (⟨negative, whole, fraction, exponent⟩, cs)

def isSpace (c : Char) : Bool :=
  c = ' ' || c = '\n' || c = '\r' || c = '\t'

/-- The token at the start of a text that starts with no blank, and what follows it. -/
def scanToken : List Char → Option (Token × List Char)
  | '[' :: rest => some (.openArray, rest)
  | ']' :: rest => some (.closeArray, rest)
  | '\x7b' :: rest => some (.openObject, rest)
  | '\x7d' :: rest => some (.closeObject, rest)
  | ',' :: rest => some (.comma, rest)
  | ':' :: rest => some (.colon, rest)
  | 'n' :: 'u' :: 'l' :: 'l' :: rest => some (.null, rest)
  | 't' :: 'r' :: 'u' :: 'e' :: rest => some (.bool true, rest)
  | 'f' :: 'a' :: 'l' :: 's' :: 'e' :: rest => some (.bool false, rest)
  | '"' :: rest =>
    (scanText rest).map fun (pieces, after) =>
      (.text ((joinPieces pieces).map String.ofList), after)
  | '-' :: rest => (scanMagnitude true rest).map fun (n, after) => (.number n.value?, after)
  | cs => (scanMagnitude false cs).map fun (n, after) => (.number n.value?, after)

/-- The tokens of a text of at most `fuel` characters. -/
def tokensFrom : (fuel : Nat) → List Char → Option (List Token)
  | _, [] => some []
  | 0, _ :: _ => none
  | fuel + 1, c :: rest =>
    if isSpace c then tokensFrom fuel rest
    else do
      let (token, after) ← scanToken (c :: rest)
      let more ← tokensFrom fuel after
      return token :: more

/-- The tokens of a text; a text that is no sequence of tokens has none. -/
def tokens? (cs : List Char) : Option (List Token) :=
  tokensFrom cs.length cs

end ChainCrawl.Json
