namespace ChainCrawl

/-- Variables with their values, each name once. -/
abbrev Environment := List (String × String)

namespace Environment

def get? (env : Environment) (name : String) : Option String :=
  (env.find? (·.1 = name)).map (·.2)

/-- Sets a variable that is not set yet. -/
def provide (env : Environment) (name value : String) : Environment :=
  if (env.get? name).isSome then env else env ++ [(name, value)]

end Environment

end ChainCrawl
