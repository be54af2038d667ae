import ChainCrawl.Explorer.Amount
import ChainCrawl.Explorer.Item
import ChainCrawl.TimedCache

namespace ChainCrawl.Explorer

/-- The details of a token. -/
structure TokenDetails where
  name : Option String
  symbol : String
  decimals : Nat
  deriving DecidableEq

/-- The details of tokens by their contract's address in small letters. -/
abbrev TokenCache := TimedCache String TokenDetails

/-- The decimals that a transfer states, if it states a number of 32 bits. -/
def statedDecimals (transfer : Transfer) : Option Nat :=
  transfer.tokenDecimal.bind Text.uint32?

/-- The details that a transfer states, if they are complete. -/
def statedDetails (transfer : Transfer) : Option TokenDetails :=
  match transfer.tokenSymbol, statedDecimals transfer with
  | some symbol, some decimals =>
    if symbol.isEmpty then none
    else some ⟨transfer.tokenName.filter (!·.isEmpty), symbol, decimals⟩
  | _, _ => none

/-- The details of a transfer's token. Complete ones are kept; where the explorer leaves something
out, the details that were kept count. -/
def tokenDetails (cache : TokenCache) (ticks : Nat) (transfer : Transfer) :
    Fallible (Option TokenDetails) × TokenCache :=
  let key := Text.lowercase transfer.contractAddress
  match (statedDecimals transfer).filter (mostDecimals < ·) with
  | some decimals =>
    (.error (.malformed s!"{transfer.hash}: tokenDecimal {decimals} out of range"), cache)
  | none =>
    match statedDetails transfer with
    | some details => (.ok (some details), cache.insert ticks key details)
    | none => (.ok (cache.get? ticks key), cache)

end ChainCrawl.Explorer
