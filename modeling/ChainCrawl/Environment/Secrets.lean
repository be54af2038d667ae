import ChainCrawl.Environment.File
import ChainCrawl.Log

namespace ChainCrawl

/-- The secrets of a deployment. -/
structure Secrets where
  databaseUrl : String
  /-- A key of no characters counts as none. -/
  explorerKey : Option String
  deriving DecidableEq

/-- A variable without which nothing starts. -/
structure MissingVariable where
  name : String
  deriving DecidableEq

def MissingVariable.text (e : MissingVariable) : String :=
  s!"{e.name} is required: environment variable not found"

namespace Secrets

def databaseVariable : String := "DATABASE_URL"

def explorerVariable : String := "ETHERSCAN_API_KEY"

def ofEnvironment (env : Environment) : Except MissingVariable Secrets :=
  match env.get? databaseVariable with
  | some url => .ok ⟨url, (env.get? explorerVariable).filter (· ≠ "")⟩
  | none => .error ⟨databaseVariable⟩

/-- The secrets among the variables that are set and those that an environment file provides. -/
def gather (env : Environment) (file : Option String) : Except MissingVariable Secrets :=
  ofEnvironment ((file.map env.provideFile).getD env)

/-- What may be shown of a secret: its first five characters and how many it has. -/
def abridge (secret : String) : String :=
  let shown := String.ofList (secret.toList.take 5)
  s!"{shown}...({secret.length} chars)"

def report (s : Secrets) : List LogEntry :=
  let key := (s.explorerKey.map abridge).getD "<not set>"
  [⟨.info, "Config loaded:", []⟩,
    ⟨.info, s!"  {databaseVariable}: {abridge s.databaseUrl}", []⟩,
    ⟨.info, s!"  {explorerVariable}: {key}", []⟩]

end Secrets

end ChainCrawl
