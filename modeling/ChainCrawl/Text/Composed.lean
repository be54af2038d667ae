import ChainCrawl.Text.Composition

namespace ChainCrawl.Text

/-- The class of a mark; nought for what is no such mark. -/
def combiningClass (c : Char) : Nat :=
  ((combiningClasses.find? fun row => row.2.covers c).map (·.1)).getD 0

/-- The syllable that two parts of Korean script make: a first consonant and a vowel, or a syllable
without a last consonant and that consonant. -/
def syllable? (first second : Nat) : Option Nat :=
  if 0x1100 ≤ first && first < 0x1113 && 0x1161 ≤ second && second < 0x1176 then
    some (0xAC00 + ((first - 0x1100) * 21 + (second - 0x1161)) * 28)
  else if 0xAC00 ≤ first && first < 0xD7A4 && (first - 0xAC00) % 28 = 0
      && 0x11A8 ≤ second && second < 0x11C3 then
    some (first + (second - 0x11A7))
  else none

def syllableParts? (code : Nat) : Option (List Nat) :=
  if 0xAC00 ≤ code && code < 0xD7A4 then
    let place := code - 0xAC00
    let last := place % 28
    some ([0x1100 + place / (21 * 28), 0x1161 + place / 28 % 21]
      ++ if last = 0 then [] else [0x11A7 + last])
  else none

def composite? (base mark : Nat) : Option Nat :=
  match composites.lookup mark with
  | some row => row.lookup base
  | none => none

def compositeParts? (code : Nat) : Option (List Nat) :=
  composites.findSome? fun (mark, row) =>
    (row.find? fun pair => pair.2 = code).map fun pair => [pair.1, mark]

def replacedIdeograph? (code : Nat) : Option Nat :=
  replacedIdeographs.findSome? fun (first, row) =>
    if first ≤ code then row.toList[code - first]?.map Char.toNat else none

/-- What a character gives way to when it is taken apart once. -/
def parts? (code : Nat) : Option (List Nat) :=
  syllableParts? code <|> compositeParts? code <|> replaced.lookup code
    <|> (replacedIdeograph? code).map ([·])

/-- Takes a character apart, at most `depth` times over. -/
def decompose : (depth : Nat) → (code : Nat) → List Nat
  | 0, code => [code]
  | depth + 1, code =>
    match parts? code with
    | some parts => parts.flatMap (decompose depth)
    | none => [code]

/-- No character can be taken apart more often than this. -/
def greatestDepth : Nat := 4

/-- A character without its marks, and the marks after it. -/
def decomposeChar (c : Char) : List Char :=
  if c.toNat < 0xC0 then [c] else (decompose greatestDepth c.toNat).map Char.ofNat

/-- Adds a character to a text that is held last character first. A mark goes before the marks of
higher classes. -/
def placeMark (c : Char) : List Char → List Char
  | [] => [c]
  | d :: before =>
    if combiningClass c != 0 && combiningClass c < combiningClass d then d :: placeMark c before
    else c :: d :: before

/-- The text with its marks in the order of their classes. -/
def orderMarks (cs : List Char) : List Char :=
  (cs.foldl (fun placed c => placeMark c placed) []).reverse

/-- A text that is being put together. -/
structure Composing where
  /-- What is finished, the last character first. -/
  finished : List Char
  /-- The letter that marks are still put together with. -/
  base : Option Char
  /-- The marks after that letter that stay by themselves, the last one first. -/
  marks : List Char

namespace Composing

/-- No mark stands between the letter and a further character that keeps the two apart. -/
def reaches (s : Composing) (c : Char) : Bool :=
  match s.marks with
  | [] => true
  | mark :: _ => combiningClass mark < combiningClass c

/-- The text so far, the last character first. -/
def text (s : Composing) : List Char :=
  s.marks ++ s.base.toList ++ s.finished

def keep (s : Composing) (c : Char) : Composing :=
  if combiningClass c = 0 then { finished := s.text, base := some c, marks := [] }
  else { s with marks := c :: s.marks }

def add (s : Composing) (c : Char) : Composing :=
  let whole? := do
    let base ← s.base
    guard (s.reaches c)
    syllable? base.toNat c.toNat <|> composite? base.toNat c.toNat
  match whole? with
  | some whole => { s with base := some (Char.ofNat whole) }
  | none => s.keep c

end Composing

/-- The composed form of a text, so that what looks the same is written the same. Every character is
taken apart into a letter and its marks, the marks are put into the order of their classes, and
letters and marks are put together again as far as there are characters for them. -/
def composed (cs : List Char) : List Char :=
  let apart := orderMarks (cs.flatMap decomposeChar)
  (apart.foldl Composing.add ⟨[], none, []⟩).text.reverse

end ChainCrawl.Text
