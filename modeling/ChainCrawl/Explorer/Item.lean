import ChainCrawl.Explorer.Client

namespace ChainCrawl.Explorer

open ChainCrawl.Json (Document)

/-- A transfer of tokens. -/
structure Transfer where
  blockNumber : String
  timeStamp : String
  hash : String
  logIndex : Option String
  sender : String
  receiver : String
  value : String
  contractAddress : String
  tokenName : Option String
  tokenSymbol : Option String
  tokenDecimal : Option String
  deriving DecidableEq

/-- A normal transaction. -/
structure Transaction where
  blockNumber : String
  timeStamp : String
  hash : String
  sender : String
  receiver : String
  value : String
  isError : Option String
  functionName : Option String
  deriving DecidableEq

def readTimeStamp (s : String) : Option Time.Instant :=
  (Text.int64? s).bind fun seconds => Time.Instant.ofUnix? seconds 0

def textField (name : String) : Shape.Fields Document (Option String) :=
  .fieldD name (Shape.orNull Shape.text) none

def Transfer.fields : Shape.Fields Document Transfer :=
  Transfer.mk <$> .field "blockNumber" Shape.text
    <*> .field "timeStamp" Shape.text
    <*> .field "hash" Shape.text
    <*> textField "logIndex"
    <*> .field "from" Shape.text
    <*> .field "to" Shape.text
    <*> .field "value" Shape.text
    <*> .field "contractAddress" Shape.text
    <*> textField "tokenName"
    <*> textField "tokenSymbol"
    <*> textField "tokenDecimal"

def Transaction.fields : Shape.Fields Document Transaction :=
  Transaction.mk <$> .field "blockNumber" Shape.text
    <*> .field "timeStamp" Shape.text
    <*> .field "hash" Shape.text
    <*> .field "from" Shape.text
    <*> .field "to" Shape.text
    <*> .field "value" Shape.text
    <*> textField "isError"
    <*> textField "functionName"

def Transfer.decode (item : Json) : Except ExplorerFailure Transfer :=
  Explorer.decode "TokenTransfer" fields item

def Transaction.decode (item : Json) : Except ExplorerFailure Transaction :=
  Explorer.decode "Transaction" fields item

end ChainCrawl.Explorer
