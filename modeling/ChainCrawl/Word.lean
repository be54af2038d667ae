namespace ChainCrawl.Word

abbrev maxUInt32 : Int := 4294967295

abbrev maxUInt64 : Int := 18446744073709551615

abbrev minInt64 : Int := -9223372036854775808

abbrev maxInt64 : Int := 9223372036854775807

def held? (n : Int) : Option Int :=
  if minInt64 ≤ n ∧ n ≤ maxInt64 then some n else none

end ChainCrawl.Word
