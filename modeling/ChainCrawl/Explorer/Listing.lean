import ChainCrawl.Explorer.Failure
import ChainCrawl.Json.Value
import ChainCrawl.Proc.Basic

namespace ChainCrawl.Explorer

/-- The items that can be reached through pages. An explorer refuses pages that would reach beyond
them, so a range of blocks with as many items cannot be listed. -/
def reachableItems : Nat := 10000

def fullPage : UInt32 := 1000

/-- The order of a list. -/
inductive SortOrder where
  | ascending
  | descending
  deriving DecidableEq

def SortOrder.name : SortOrder → String
  | ascending => "asc"
  | descending => "desc"

/-- What is listed: the items of the blocks from `firstBlock` to `lastBlock`. -/
structure Listing where
  firstBlock : Int
  lastBlock : Int
  /-- The items wanted on a page. -/
  perPage : UInt32
  order : SortOrder
  /-- Read on until a page is not full. -/
  whole : Bool
  deriving DecidableEq

namespace Listing

def ofBlocks (firstBlock lastBlock : Int) : Listing :=
  ⟨firstBlock, lastBlock, fullPage, .ascending, true⟩

def newest (limit : UInt32) : Listing :=
  ⟨0, 99999999, limit, .descending, false⟩

/-- The items on a page: at least one, and no more than can be reached at all. -/
def pageSize (q : Listing) : Nat :=
  max 1 (min q.perPage.toNat reachableItems)

def pageLimit (q : Listing) : Nat :=
  reachableItems / q.pageSize

end Listing

/-- A request to an explorer that can fail. -/
abbrev Query (S : Signature) := ExceptT ExplorerFailure (Proc S)

/-- The items from a page on, with `further` pages left after it. -/
def pagesFrom {S : Signature} (q : Listing) (fetchPage : Nat → Query S (List Json)) :
    (further : Nat) → (page : Nat) → Query S (List Json)
  | further, page => do
    let items ← fetchPage page
    if !q.whole || items.length < q.pageSize then return items
    else match further with
      | 0 => throw (.overfull q.firstBlock q.lastBlock reachableItems)
      | further + 1 => return items ++ (← pagesFrom q fetchPage further (page + 1))

/-- The items of a listing, read in pages from the first one on. -/
def readPages {S : Signature} (q : Listing) (fetchPage : Nat → Query S (List Json)) :
    Query S (List Json) :=
  pagesFrom q fetchPage (q.pageLimit - 1) 1

end ChainCrawl.Explorer
