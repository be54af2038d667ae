import ChainCrawl.Explorer.Item
import ChainCrawl.Poller.Cycle
import ChainCrawl.Report.Failure
import ChainCrawl.Report.Settings
import ChainCrawl.Visit.Queue

namespace ChainCrawl

def Event.toJson (e : Event) : Json :=
  .obj [("endpoint", .str e.endpoint), ("payload", e.payload)]

def Profile.toJson (p : Profile) : Json :=
  .obj [("identity", .str p.identity), ("name", .ofText? p.name), ("bio", .ofText? p.bio),
    ("avatar", .ofText? p.avatar), ("links", .ofTexts p.links)]

def PassFailure.toJson : PassFailure → Json
  | member name cause => .obj [("member", .str name), ("cause", cause.toJson)]
  | scan cause => .obj [("scan", cause.toJson)]

def PassReport.toJson (r : PassReport) : Json :=
  if r.errors.isEmpty then .obj [("visited", .ofNat r.visited)]
  else .obj [("error", .str "DrainErrors"), ("message", .str r.text),
    ("visited", .ofNat r.visited), ("count", .ofNat r.errors.length),
    ("is_empty", .bool r.errors.isEmpty), ("errors", .arr (r.errors.map PassFailure.toJson))]

def CycleEnd.toJson : CycleEnd → Json
  | advanced w records caughtUp =>
    .obj [("outcome", .str "advanced"), ("from", .int w.first), ("to", .int w.last),
      ("records", .ofNat records), ("caught_up", .bool caughtUp)]
  | waiting safeHeight needed =>
    .obj [("outcome", .str "waiting"), ("safe_height", .int safeHeight), ("needed", .int needed)]
  | failed cause => .obj [("outcome", .str "failed"), ("cause", cause.toJson)]
  | misconfigured => .obj [("outcome", .str "misconfigured")]

def WindowPlan.toJson : WindowPlan → Json
  | ready w => .obj [("fetch", w.toJson), ("len", .int w.size), ("is_empty", .bool w.isEmpty)]
  | early safeHeight needed =>
    .obj [("insufficient", .obj [("safe_height", .int safeHeight), ("needed", .int needed)])]

namespace Explorer

def Transfer.toJson (t : Transfer) : Json :=
  .obj [("block_number", .str t.blockNumber), ("time_stamp", .str t.timeStamp),
    ("hash", .str t.hash), ("log_index", .ofText? t.logIndex), ("from", .str t.sender),
    ("to", .str t.receiver), ("value", .str t.value), ("contract_address", .str t.contractAddress),
    ("token_name", .ofText? t.tokenName), ("token_symbol", .ofText? t.tokenSymbol),
    ("token_decimal", .ofText? t.tokenDecimal)]

def Transaction.toJson (t : Transaction) : Json :=
  .obj [("block_number", .str t.blockNumber), ("time_stamp", .str t.timeStamp),
    ("hash", .str t.hash), ("from", .str t.sender), ("to", .str t.receiver),
    ("value", .str t.value), ("is_error", .ofText? t.isError),
    ("function_name", .ofText? t.functionName)]

end Explorer

end ChainCrawl
