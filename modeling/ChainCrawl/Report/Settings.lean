import ChainCrawl.Config.Basic
import ChainCrawl.Cursor.Basic
import ChainCrawl.Inquiry.Basic
import ChainCrawl.Json.Access
import ChainCrawl.Log

namespace ChainCrawl

def Window.toJson (w : Window) : Json :=
  .arr [.int w.first, .int w.last]

def Time.Instant.toJson (t : Time.Instant) : Json :=
  .arr [.int t.seconds, .ofNat t.nanos]

def Inquiry.toJson (p : Inquiry) : Json :=
  .obj [("identity", .str p.identity), ("network", .str p.network.name),
    ("platform", .ofText? (p.platform.map Platform.name)),
    ("limit", .ofOption (fun n => .ofNat n.toNat) p.limit),
    ("since", .ofOption Time.Instant.toJson p.since),
    ("window", .ofOption Window.toJson p.window)]

def Cursor.toJson (c : Cursor) : Json :=
  .obj [("source_key", .str c.sourceKey), ("network", .str c.network.name),
    ("from_height", .int c.height), ("step", .int c.step), ("min_step", .int c.minStep),
    ("confirmations", .int c.confirmations), ("sleep_interval_ms", .ofNat c.sleepMillis)]

def Source.toJson (s : Source) : Json :=
  .obj [("key", .str s.key), ("network", .str s.network.name), ("adapter", .str s.adapter.name),
    ("target", .str s.target), ("explorer_url", .str s.explorerUrl),
    ("start_height", .int s.startHeight), ("step", .int s.step), ("min_step", .int s.minStep),
    ("confirmations", .int s.confirmations), ("sleep_interval_secs", .ofNat s.sleepSecs.toNat),
    ("poll_interval_secs", .ofNat s.pollSecs.toNat), ("enabled", .bool s.enabled)]

def Config.toJson (c : Config) : Json :=
  .obj [("max_connections", .ofNat c.maxConnections.toNat),
    ("retention_secs", .ofNat c.sweep.retentionSecs.toNat),
    ("page_size", .ofNat c.sweep.pageSize.toNat),
    ("interval_secs", .ofNat c.sweep.intervalSecs.toNat),
    ("sources", .arr (c.sources.map Source.toJson)),
    ("enabled", .arr (c.polledSources.map fun s => .arr [.str s.key, .str s.network.name]))]

def LogEntry.toJson (e : LogEntry) : Json :=
  .obj [("level", .str e.level.name), ("message", .str e.message),
    ("fields", .obj (e.fields.map fun (name, value) => (name, .str value)))]

end ChainCrawl
