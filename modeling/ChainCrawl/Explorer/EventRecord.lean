import ChainCrawl.Explorer.Fetch
import ChainCrawl.Explorer.Token
import ChainCrawl.Record.Basic

namespace ChainCrawl.Explorer

def transactionUrl (network : Network) (hash : String) : String :=
  let base := match network with
    | .ethereum => "https://etherscan.io/tx/"
    | .polygon => "https://polygonscan.com/tx/"
    | .binanceSmartChain => "https://bscscan.com/tx/"
    | .arbitrum => "https://arbiscan.io/tx/"
    | .optimism => "https://optimistic.etherscan.io/tx/"
    | .xdai => "https://gnosisscan.io/tx/"
    | .zkSync => "https://explorer.zksync.io/tx/"
    | .arweave => "https://viewblock.io/arweave/tx/"
  base ++ hash

/-- The record of an event with nothing in it but where and when it happened. -/
def bareRecord (inquiry : Inquiry) (network : Network) (proof hash timeStamp : String)
    (now : Time.Instant) : Fallible ActivityRecord :=
  if hash.isEmpty then .error (.malformed "empty transaction hash")
  else match readTimeStamp timeStamp with
    | none => .error (.malformed s!"{hash}: bad timeStamp {Text.quoted timeStamp}")
    | some createdAt =>
      let r := (ActivityRecord.of .note network proof inquiry.identity adapterName now).setCreatedAt
        createdAt
      .ok (match inquiry.platform with
        | some platform => r.setPlatform platform
        | none => r)

def withToken (r : ActivityRecord) (value : String) (token : TokenDetails) : ActivityRecord :=
  let r := match inUnits? value token.decimals with
    | some amount => r.setMetadata "amount" (.str amount)
    | none => r
  let r := (r.setMetadata "symbol" (.str token.symbol)).setMetadata "decimals"
    (.int token.decimals)
  match token.name with
  | some name => r.setMetadata "token_name" (.str name)
  | none => r

/-- The record of a transfer whose token is known or not. -/
def transferRecord (network : Network) (inquiry : Inquiry) (endpoint : String)
    (now : Time.Instant) (transfer : Transfer) (logIndex : String)
    (token : Option TokenDetails) : Fallible ActivityRecord := do
  let r ← bareRecord inquiry network (transfer.hash ++ "-" ++ logIndex) transfer.hash
    transfer.timeStamp now
  let r := (r.addTags ["transaction", "token"]).addAuthor transfer.sender
    |>.setMetadata "block_number" (.str transfer.blockNumber)
    |>.setMetadata "from" (.str transfer.sender)
    |>.setMetadata "to" (.str transfer.receiver)
    |>.setMetadata "value" (.str transfer.value)
    |>.setMetadata "contract_address" (.str transfer.contractAddress)
    |>.setMetadata "endpoint" (.str endpoint)
  let r := match token with
    | some token => withToken r transfer.value token
    | none => r
  return r.addUrl (transactionUrl network transfer.hash)

def recordOfTransfer (network : Network) (cache : TokenCache) (ticks : Nat) (now : Time.Instant)
    (inquiry : Inquiry) (event : Event) : Fallible ActivityRecord × TokenCache :=
  match Transfer.decode event.payload with
  | .error e => (.error (.malformed s!"{tokenEndpoint}: {e.text}"), cache)
  | .ok transfer =>
    match transfer.logIndex with
    | none => (.error (.malformed s!"{transfer.hash}: missing logIndex"), cache)
    | some logIndex =>
      match tokenDetails cache ticks transfer with
      | (.error e, cache) => (.error e, cache)
      | (.ok token, cache) =>
        (transferRecord network inquiry event.endpoint now transfer logIndex token, cache)

def recordOfTransaction (network : Network) (now : Time.Instant) (inquiry : Inquiry)
    (event : Event) : Fallible ActivityRecord :=
  match Transaction.decode event.payload with
  | .error e => .error (.malformed s!"{transactionEndpoint}: {e.text}")
  | .ok tx => do
    let r ← bareRecord inquiry network tx.hash tx.hash tx.timeStamp now
    let r := (r.addTags ["transaction", "transfer"]).addAuthor tx.sender
      |>.setMetadata "block_number" (.str tx.blockNumber)
      |>.setMetadata "from" (.str tx.sender)
      |>.setMetadata "to" (.str tx.receiver)
      |>.setMetadata "value" (.str tx.value)
      |>.setMetadata "failed" (.bool (tx.isError = some "1"))
      |>.setMetadata "endpoint" (.str event.endpoint)
    let r := match inUnits? tx.value 18 with
      | some amount => r.setMetadata "amount" (.str amount)
      | none => r
    let r := match tx.functionName.filter (!·.isEmpty) with
      | some name => r.setMetadata "function_name" (.str name)
      | none => r
    return r.addUrl (transactionUrl network tx.hash)

def recordOf (network : Network) (cache : TokenCache) (ticks : Nat) (now : Time.Instant)
    (inquiry : Inquiry) (event : Event) : Fallible ActivityRecord × TokenCache :=
  if event.endpoint = tokenEndpoint then recordOfTransfer network cache ticks now inquiry event
  else if event.endpoint = transactionEndpoint then
    (recordOfTransaction network now inquiry event, cache)
  else (.error (.malformed s!"unknown endpoint: {event.endpoint}"), cache)

end ChainCrawl.Explorer
