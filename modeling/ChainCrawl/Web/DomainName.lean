import ChainCrawl.Text.Composed
import ChainCrawl.Text.Direction
import ChainCrawl.Text.Joining
import ChainCrawl.Text.Split
import ChainCrawl.Web.Folding
import ChainCrawl.Web.Punycode

namespace ChainCrawl.Web

open ChainCrawl.Text (Direction)

/-- A part of a host name between two full stops. -/
structure Label where
  shown : List Char
  /-- The label as it is written in ASCII. -/
  ascii : List Char

namespace Label

/-- The four characters that a label written in ASCII starts with, if it is not ASCII itself. -/
def sign : List Char := ['x', 'n', '-', '-']

/-- The most letters of a label that is not ASCII. -/
def greatestLength : Nat := 1000

/-- The most letters after the sign of a label. -/
def greatestWritten : Nat := 2000

/-- A joiner stands after a mark that silences a letter, or else it is the one that parts, and
stands between letters that would join. `before` holds the characters before it, nearest first. -/
def joinerFits (c : Char) (before rest : List Char) : Bool :=
  before.head?.any (fun d => Text.combiningClass d = 9) ||
    (c = '\u200c' && (before.dropWhile Text.isTransparent).head?.any Text.joinsForward
      && (rest.dropWhile Text.isTransparent).head?.any Text.joinsBackward)

/-- Every joiner has its place; `before` holds the characters already passed, nearest first. -/
def joinersFit (before : List Char) : List Char → Bool
  | [] => true
  | c :: rest => (!isJoiner c || joinerFits c before rest) && joinersFit (c :: before) rest

/-- A label that is not ASCII is in order: it does not look like one in ASCII, starts with no mark,
and has its joiners where they do something. -/
def isWellFormed (label : List Char) : Bool :=
  !sign.isPrefixOf label && !label.head?.any Text.isMark && joinersFit [] label

def read? (label : List Char) : Option Label :=
  if label.all Punycode.isBasic then
    if sign.isPrefixOf label then do
      let written := label.drop sign.length
      guard (written.length ≤ greatestWritten)
      let shown ← Punycode.decode? written
      guard (!shown.all Punycode.isBasic)
      guard (shown.all (fun c => fold? c = some [c]) && Text.composed shown = shown)
      guard (isWellFormed shown)
      return ⟨shown, label⟩
    else some ⟨label, label⟩
  else do
    guard (isWellFormed label && label.length ≤ greatestLength)
    return ⟨label, sign ++ Punycode.encode label⟩

/-- What may stand in a label that starts with a letter that runs to the right. -/
def mayRunRight : Direction → Bool
  | .leftward | .arabic | .arabicNumber => false
  | _ => true

/-- What may stand in a label that starts with a letter that runs to the left. -/
def mayRunLeft : Direction → Bool
  | .rightward => false
  | _ => true

/-- The directions of a label leave no doubt how it runs. -/
def directionsFit (directions : List Direction) : Bool :=
  let final := (directions.reverse.dropWhile (· = .mark)).head?
  match directions.head? with
  | none => true
  | some .rightward =>
    directions.all mayRunRight && [some .rightward, some .number].contains final
  | some .leftward | some .arabic =>
    directions.all mayRunLeft
      && [some .leftward, some .arabic, some .number, some .arabicNumber].contains final
      && !(directions.contains .number && directions.contains .arabicNumber)
  | some _ => false

def directions (label : Label) : List Direction :=
  label.shown.map Text.directionOf

def runsLeft (label : Label) : Bool :=
  label.directions.any fun d => !mayRunRight d

end Label

/-- A character that no host name may hold, since it stands for something else in an address. -/
def isReserved (c : Char) : Bool :=
  c.toNat ≤ 0x20 || c.toNat = 0x7F || "#%/:<>?@[\\]^|".toList.contains c

/-- The labels of a host name. If one of them runs to the left, every one must leave no doubt how it
runs. -/
def labels? (name : List Char) : Option (List Label) := do
  let folded ← name.mapM fold?
  let labels ← (Text.splitWhere (· = '.') (Text.composed folded.flatten)).mapM Label.read?
  guard (!labels.any Label.runsLeft || labels.all fun label => Label.directionsFit label.directions)
  return labels

/-- The host name in ASCII. It is brought into one form first, so that two names that look the same
are the same name; then each of its labels is written in ASCII, unless it breaks one of the rules
that keep labels apart. -/
def asciiName? (name : List Char) : Option (List Char) := do
  let labels ← labels? name
  let written := ['.'].intercalate (labels.map Label.ascii)
  guard (!written.any isReserved)
  return written

end ChainCrawl.Web
