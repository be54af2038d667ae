import ChainCrawl.Adapter.Table
import ChainCrawl.Explorer.Item
import ChainCrawl.Inquiry.Basic

namespace ChainCrawl.Explorer

def adapterName : String := "etherscan"

def tokenEndpoint : String := "tokentx"

def transactionEndpoint : String := "txlist"

/-- The items that are listed where an inquiry sets no limit. -/
def usualLimit : UInt32 := 100

/-- An item that happened before an instant; one without a readable time stamp did not. -/
def happenedBefore (payload : Json) (since : Time.Instant) : Bool :=
  match ((payload.get? "timeStamp").bind Json.str?).bind readTimeStamp with
  | some t => t.before since
  | none => false

def listingFor (inquiry : Inquiry) : Listing :=
  match inquiry.window with
  | some window => .ofBlocks window.first window.last
  | none => .newest (inquiry.limit.getD usualLimit)

/-- The items that an inquiry asks for, transfers before transactions. Both lists are read side by
side, and the failure of one is the failure of the whole. -/
def fetch (client : Client) (inquiry : Inquiry) : Proc web (Fallible (List Event)) := do
  let listing := listingFor inquiry
  let listed ← Proc.both (client.transfers inquiry.identity listing).run
    (client.transactions inquiry.identity listing).run
  return (listed.mapError ExplorerFailure.toFailure).map fun (transfers, transactions) =>
    (transfers.map (Event.mk tokenEndpoint) ++
        transactions.map (Event.mk transactionEndpoint)).filter fun event =>
      match inquiry.since with
      | some since => !happenedBefore event.payload since
      | none => true

def headHeight (client : Client) : Proc web (Fallible Int) := do
  return (← client.newestHeight.run).mapError ExplorerFailure.toFailure

end ChainCrawl.Explorer
