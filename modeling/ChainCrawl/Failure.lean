import ChainCrawl.Network

namespace ChainCrawl

/-- A cause of failure, with the words of whoever reported it. -/
inductive Failure where
  /-- The network or the explorer failed. -/
  | unavailable (message : String)
  /-- The explorer refused for having been asked too often. -/
  | throttled (message : String)
  /-- A window holds more items than the explorer pages through. -/
  | overfull (message : String)
  /-- No adapter serves the inquiry. -/
  | unserved (network : Network) (platform : Option Platform)
  /-- One event cannot be made a record. -/
  | malformed (message : String)
  /-- A table failed, and nothing was written. -/
  | storage (message : String)
  | decode (message : String)
  | config (message : String)
  deriving DecidableEq

/-- A result, or the cause of its absence. -/
abbrev Fallible := Except Failure

namespace Failure

def text : Failure → String
  | unavailable message => s!"upstream unavailable: {message}"
  | throttled message => s!"upstream rate limited: {message}"
  | overfull message => s!"window too large: {message}"
  | unserved network platform =>
    let place := (platform.map Platform.name).getD "any"
    s!"unsupported network: {network.name} (platform: {place})"
  | malformed message => s!"malformed record: {message}"
  | storage message => s!"storage error: {message}"
  | decode message => s!"decode error: {message}"
  | config message => s!"configuration error: {message}"

/-- The same inquiry may succeed later, which is so after four of the causes. -/
def isRetriable : Failure → Bool
  | unavailable _ | throttled _ | overfull _ | storage _ => true
  | _ => false

def isThrottled : Failure → Bool
  | throttled _ => true
  | _ => false

/-- The next window is as small as the source allows, which two of the retriable causes ask for. -/
def shrinksWindow : Failure → Bool
  | throttled _ | overfull _ => true
  | _ => false

/-- The reason why one event was left out, if the failure concerns that event alone. -/
def skipReason? : Failure → Option String
  | malformed reason | decode reason => some reason
  | _ => none

end Failure

def Network.parse (s : String) : Fallible Network :=
  match ofName? s with
  | some n => .ok n
  | none => .error (.decode s!"unknown network: {s}")

def Platform.parse (s : String) : Fallible Platform :=
  match ofName? s with
  | some p => .ok p
  | none => .error (.decode s!"unknown platform: {s}")

def ActivityKind.parse (s : String) : Fallible ActivityKind :=
  match ofName? s with
  | some k => .ok k
  | none => .error (.decode s!"unknown record kind: {s}")

end ChainCrawl
