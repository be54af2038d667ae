import ChainCrawl.Text.Ranges

namespace ChainCrawl.Text

/-- The code points of blanks and line breaks. -/
def blankRanges : Ranges :=
  [(0x9, 0xD), (0x20, 0x20), (0x85, 0x85), (0xA0, 0xA0), (0x1680, 0x1680), (0x2000, 0x200A),
   (0x2028, 0x2029), (0x202F, 0x202F), (0x205F, 0x205F), (0x3000, 0x3000)]

def isBlank (c : Char) : Bool :=
  blankRanges.covers c

def skipBlanks (cs : List Char) : List Char :=
  cs.dropWhile isBlank

def trim (s : String) : String :=
  String.ofList (skipBlanks (skipBlanks s.toList).reverse).reverse

end ChainCrawl.Text
