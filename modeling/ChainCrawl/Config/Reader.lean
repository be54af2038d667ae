import ChainCrawl.Config.Check
import ChainCrawl.Toml.Reader
import ChainCrawl.Toml.Shape

namespace ChainCrawl

def Source.fields : Shape.Fields Toml Source :=
  Source.mk <$> .field "key" Toml.asText
    <*> .field "network" (Toml.asCase Network.cases)
    <*> .field "adapter" (Toml.asCase Service.cases)
    <*> .field "target" Toml.asText
    <*> .field "explorer_url" Toml.asText
    <*> .fieldD "start_height" Toml.asInt64 0
    <*> .field "step" Toml.asInt64
    <*> .field "min_step" Toml.asInt64
    <*> .field "confirmations" Toml.asInt64
    <*> .fieldD "sleep_interval_secs" Toml.asUInt64 15
    <*> .fieldD "poll_interval_secs" Toml.asUInt64 30
    <*> .fieldD "enabled" Toml.asBool true

def SweepSettings.fields : Shape.Fields Toml SweepSettings :=
  SweepSettings.mk <$> .fieldD "retention_secs" Toml.asUInt64 86400
    <*> .fieldD "page_size" Toml.asUInt32 100
    <*> .fieldD "interval_secs" Toml.asUInt64 900

/-- Why a file has no text. -/
inductive FileFault where
  | missing
  /-- Its bytes are no UTF-8. -/
  | notText
  deriving DecidableEq

def FileFault.text : FileFault → String
  | missing => "No such file or directory (os error 2)"
  | notText => "stream did not contain valid UTF-8"

/-- Why a text has no configuration. -/
inductive ConfigError where
  /-- The text is no TOML. -/
  | notToml
  | shape (e : Shape.Error)
  | broken (fault : ConfigFault)
  deriving DecidableEq

def ConfigError.text : ConfigError → String
  | notToml => "Failed to parse config TOML: <toml syntax>"
  | shape e => s!"Failed to parse config TOML: {e.message}"
  | broken fault => fault.toFailure.text

/-- Why a file has no configuration. -/
inductive ConfigFileError where
  | unreadable (fault : FileFault)
  | invalid (e : ConfigError)
  deriving DecidableEq

def ConfigFileError.text (path : String) : ConfigFileError → String
  | unreadable fault => s!"Failed to read config file: {path}: {fault.text}"
  | invalid e => s!"Invalid config file: {path}: {e.text}"

namespace Config

def connections : Shape.Fields Toml UInt32 :=
  .fieldD "max_connections" Toml.asUInt32 defaultConnections

def fields : Shape.Fields Toml Config :=
  Config.mk <$> .fieldD "database" (Toml.asRecord "DatabaseConfig" connections) defaultConnections
    <*> .fieldD "recrawl" (Toml.asRecord "RecrawlConfig" SweepSettings.fields) {}
    <*> .fieldD "sources" (Toml.asList (Toml.asRecord "SourceConfig" Source.fields)) []

/-- The configuration that a TOML text writes. No field may be in it that a configuration does not
know, and the configuration must keep its rules. -/
def parse (text : String) : Except ConfigError Config :=
  match Toml.read? text with
  | none => .error .notToml
  | some table =>
    match Toml.asRecord "FileConfig" fields (.table .header table) with
    | .error e => .error (.shape e)
    | .ok c =>
      match c.check with
      | .error fault => .error (.broken fault)
      | .ok () => .ok c

/-- The configuration in a file; a file that is not there has no bytes. -/
def ofFile (bytes : Option ByteArray) : Except ConfigFileError Config :=
  match bytes with
  | none => .error (.unreadable .missing)
  | some bytes =>
    match String.fromUTF8? bytes with
    | none => .error (.unreadable .notText)
    | some text => (parse text).mapError .invalid

end Config

end ChainCrawl
