import ChainCrawl.Explorer.Failure
import ChainCrawl.Json.Value
import ChainCrawl.Table.Failure

namespace ChainCrawl

def failureJson (kind message : String) : Json :=
  .obj [("error", .str kind), ("message", .str message)]

namespace Failure

def kind : Failure → String
  | unavailable _ => "UpstreamUnavailable"
  | throttled _ => "UpstreamRateLimited"
  | overfull _ => "WindowTooLarge"
  | unserved _ _ => "UnsupportedNetwork"
  | malformed _ => "MalformedRecord"
  | storage _ => "Storage"
  | decode _ => "Decode"
  | config _ => "Config"

def toJson (e : Failure) : Json :=
  failureJson e.kind e.text

end Failure

namespace TableFailure

def kind : TableFailure → String
  | database _ => "Database"
  | serialization _ => "Serialization"
  | corrupt _ => "StoreDecode"

def toJson (e : TableFailure) : Json :=
  .obj [("error", .str e.kind), ("message", .str e.text),
    ("as_crawl_error", e.toFailure.toJson)]

end TableFailure

namespace ExplorerFailure

def kind : ExplorerFailure → String
  | network _ => "Network"
  | api _ _ => "Api"
  | throttled _ => "RateLimited"
  | overfull _ _ _ => "WindowTooLarge"
  | parse _ => "Parse"

def toJson (e : ExplorerFailure) : Json :=
  failureJson e.kind e.text

end ExplorerFailure

end ChainCrawl
