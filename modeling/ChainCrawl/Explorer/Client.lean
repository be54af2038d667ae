import ChainCrawl.Explorer.Listing
import ChainCrawl.Shape.Json
import ChainCrawl.Text.Integer
import ChainCrawl.Text.Lowercase
import ChainCrawl.Text.Search
import ChainCrawl.Web.Address.Reader
import ChainCrawl.Word

namespace ChainCrawl.Explorer

open ChainCrawl.Json (Document)

/-- An answer on the web. -/
structure HttpResponse where
  status : Nat
  body : String

/-- The web: an address is requested, and an answer comes or not. -/
abbrev web : Signature where
  Request := String
  Answer := fun _ => Option HttpResponse

def askWeb (address : String) : Proc web (Option HttpResponse) :=
  .ask address .done

/-- Where an explorer is, and the key that it wants. -/
structure Client where
  baseUrl : String
  apiKey : String
  deriving DecidableEq

/-- The usual envelope of an answer. -/
structure Envelope where
  status : String
  message : String
  result : Json

/-- The answer of a remote procedure call. -/
structure CallEnvelope where
  result : Option Json
  error : Option Json

def Envelope.fields : Shape.Fields Document Envelope :=
  Envelope.mk <$> .field "status" Shape.text <*> .field "message" Shape.text
    <*> .field "result" (Shape.json 0)

def CallEnvelope.fields : Shape.Fields Document CallEnvelope :=
  CallEnvelope.mk <$> .optional "result" (Shape.orNull (Shape.json 0))
    <*> .optional "error" (Shape.orNull (Shape.json 0))

def decode {α : Type} (name : String) (fields : Shape.Fields Document α) (v : Json) :
    Except ExplorerFailure α :=
  (Shape.fromJson (Shape.record .value name fields) v).mapError fun e => .parse e.message

namespace Envelope

/-- The explorer has nothing to list. -/
def isEmptyList (e : Envelope) : Bool :=
  "No transactions found".toList.isPrefixOf e.message.toList ||
    "No records found".toList.isPrefixOf e.message.toList

/-- What an envelope says in detail: its result, as plain text where it is one. -/
def detail (e : Envelope) : String :=
  e.result.str?.getD e.result.render

/-- A text says that requests come too often. -/
def saysRateLimit (s : String) : Bool :=
  Text.occursIn "rate limit".toList (Text.lowercase s).toList

/-- The failure that an envelope reports. -/
def failure (e : Envelope) : ExplorerFailure :=
  if saysRateLimit e.detail then .throttled e.detail
  else .api 200 s!"{e.message}: {e.detail}"

end Envelope

/-- The height that a quantity writes: hexadecimal digits after `0x`, read as a word with sign. -/
def readQuantity (quantity : String) : Except ExplorerFailure Int :=
  match quantity.toList with
  | '0' :: 'x' :: digits =>
    (Text.readInteger 16 Word.minInt64 Word.maxInt64 digits).mapError fun fault =>
      .parse s!"bad hex quantity {quantity}: {fault.message}"
  | _ => .error (.parse s!"not a hex quantity: {quantity}")

namespace Client

variable (client : Client)

/-- The address of a request with parameters and the key. Credentials in the base address are no
part of it; a base address that no request can be sent to is a fault. -/
def target (params : List (String × String)) : Except ExplorerFailure String := do
  match Web.Address.read? client.baseUrl with
  | none => .error (.network "builder error")
  | some base =>
    if base.host?.isNone then .error (.network s!"builder error for url ({base.text})")
    let full := base.withoutCredentials.withParams (params ++ [("apikey", client.apiKey)])
    if full.isRequestable then .ok full.text
    else .error (.network s!"builder error for url ({full.text})")

def request (params : List (String × String)) : Query web Json := do
  let address ← ExceptT.mk (pure (client.target params))
  match ← ExceptT.lift (askWeb address) with
  | none => throw (.network s!"error sending request for url ({address})")
  | some response =>
    if response.status = 429 then throw (.throttled response.body)
    else if response.status < 200 || 299 < response.status then
      throw (.api response.status response.body)
    else match Json.read? response.body with
      | some v => return v
      | none => throw (.network "error decoding response body")

def readHeight (body : Json) : Except ExplorerFailure Int := do
  let call ← decode "ProxyEnvelope" CallEnvelope.fields body
  match call.error with
  | some e => .error (.api 200 e.render)
  | none =>
    match call.result.bind Json.str? with
    | some quantity => readQuantity quantity
    | none => .error (.parse "eth_blockNumber: missing result")

/-- The failure that stands in the place of a height, if one does: the explorer reports it in the
usual envelope. -/
def heightFailure? (body : Json) : Option ExplorerFailure :=
  match decode "ApiEnvelope" Envelope.fields body with
  | .ok e => if e.status = "0" then some e.failure else none
  | .error _ => none

def newestHeight : Query web Int := do
  let body ← client.request [("module", "proxy"), ("action", "eth_blockNumber")]
  match heightFailure? body with
  | some e => throw e
  | none => ExceptT.mk (pure (readHeight body))

def readItems (action : String) (body : Json) : Except ExplorerFailure (List Json) := do
  let e ← decode "ApiEnvelope" Envelope.fields body
  if e.status = "1" then
    match e.result with
    | .arr items => .ok items
    | other => .error (.parse s!"{action}: expected array result, got {other.render}")
  else if e.isEmptyList then .ok []
  else .error e.failure

def pageParams (action address : String) (q : Listing) (page : Nat) : List (String × String) :=
  [("module", "account"), ("action", action), ("address", address),
    ("startblock", toString q.firstBlock), ("endblock", toString q.lastBlock),
    ("page", toString page), ("offset", toString q.pageSize), ("sort", q.order.name)]

def itemPage (action address : String) (q : Listing) (page : Nat) :
    Query web (List Json) := do
  let body ← client.request (pageParams action address q page)
  ExceptT.mk (pure (readItems action body))

def itemList (action address : String) (q : Listing) : Query web (List Json) :=
  readPages q (client.itemPage action address q)

def transfers (address : String) (q : Listing) : Query web (List Json) :=
  client.itemList "tokentx" address q

def transactions (address : String) (q : Listing) : Query web (List Json) :=
  client.itemList "txlist" address q

end Client

end ChainCrawl.Explorer
