namespace ChainCrawl.Explorer

def mostDecimals : Nat := 77

def dropLeadingZeros (cs : List Char) : List Char :=
  cs.dropWhile (· = '0')

def dropTrailingZeros (cs : List Char) : List Char :=
  (dropLeadingZeros cs.reverse).reverse

def padLeft (width : Nat) (cs : List Char) : List Char :=
  List.replicate (width - cs.length) '0' ++ cs

/-- A whole number of base units with a point before its last `decimals` digits. Text that is not
made of digits only has no such form, and neither has an amount with too many decimals. -/
def inUnits? (value : String) (decimals : Nat) : Option String :=
  let cs := value.toList
  if mostDecimals < decimals || cs.isEmpty || !cs.all Char.isDigit then none
  else
    let digits := padLeft (decimals + 1) (dropLeadingZeros cs)
    let whole := digits.take (digits.length - decimals)
    let fraction := dropTrailingZeros (digits.drop (digits.length - decimals))
    some (String.ofList (if fraction.isEmpty then whole else whole ++ '.' :: fraction))

end ChainCrawl.Explorer
