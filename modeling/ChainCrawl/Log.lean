namespace ChainCrawl

/-- How much a report matters. -/
inductive LogLevel where
  | info
  | warn
  | error
  deriving DecidableEq

def LogLevel.name : LogLevel → String
  | info => "INFO"
  | warn => "WARN"
  | error => "ERROR"

/-- A report, with named details. -/
structure LogEntry where
  level : LogLevel
  message : String
  fields : List (String × String)
  deriving DecidableEq

end ChainCrawl
