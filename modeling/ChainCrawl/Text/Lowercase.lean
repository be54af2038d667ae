import ChainCrawl.Text.Casing

namespace ChainCrawl.Text

/-- The small form of a character beyond ASCII, from the first run of capitals that holds it. -/
def smallLetter (code : Nat) : Nat :=
  match capitalRuns.find? fun (first, last, stride, _) =>
      first ≤ code && code ≤ last && (code - first) % stride == 0 with
  | some (first, _, _, small) => small + (code - first)
  | none => code

/-- The small form of one character, wherever it stands. Only the dotted capital I has a small
form of two characters. -/
def lowerChar (c : Char) : List Char :=
  if c.toNat < 0x80 then [c.toLower]
  else if c.toNat = 0x130 then ['i', '\u0307']
  else [Char.ofNat (smallLetter c.toNat)]

/-- The nearest character that is not passed over has a case. -/
def cornerIsCased (cs : List Char) : Bool :=
  match cs.dropWhile isCaseIgnorable with
  | [] => false
  | c :: _ => isCased c

/-- `before` holds the characters already passed, nearest first. -/
def lowercaseFrom (before : List Char) : List Char → List Char
  | [] => []
  | c :: rest =>
    (if c = 'Σ' then [if cornerIsCased before && !cornerIsCased rest then 'ς' else 'σ']
      else lowerChar c) ++ lowercaseFrom (c :: before) rest

/-- The text in small letters. Every character is mapped by itself, with one exception: a capital
sigma that ends a word becomes the final form. On ASCII text the map is `Char.toLower`. -/
def lowercase (s : String) : String :=
  String.ofList (lowercaseFrom [] s.toList)

theorem lowerChar_of_ascii {c : Char} (h : c.toNat < 0x80) : lowerChar c = [c.toLower] := by
  simp [lowerChar, h]

end ChainCrawl.Text
