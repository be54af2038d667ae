namespace ChainCrawl

/-- How a table came to be, which decides what may be added to it. -/
inductive TomlForm where
  /-- By a header of its own, or as the table of the whole text. -/
  | header
  /-- By the header of a table inside it. -/
  | implied
  /-- By a dotted key. -/
  | dotted
  /-- In braces. -/
  | inline
  deriving DecidableEq

/-- A TOML value. Tables keep their fields in the order in which these came. -/
inductive Toml where
  | str (s : String)
  | int (i : Int)
  | float (x : Float)
  | bool (b : Bool)
  /-- A date, a time, or both. -/
  | datetime
  | array (items : List Toml)
  | table (form : TomlForm) (fields : List (String × Toml))
  /-- Tables that share a header in double brackets. -/
  | tables (items : List (List (String × Toml)))

instance : Inhabited Toml := ⟨.bool false⟩

/-- The fields of a table. -/
abbrev TomlTable := List (String × Toml)

namespace TomlTable

def get? (t : TomlTable) (key : String) : Option Toml :=
  (t.find? (·.1 = key)).map (·.2)

def replace (t : TomlTable) (key : String) (value : Toml) : TomlTable :=
  t.map fun field => if field.1 = key then (key, value) else field

/-- Changes the table at the end of a path, and makes the tables on the way that are missing. With
`byKey` the path belongs to a dotted key, which may not reach into tables that have a header or
braces; else it belongs to a header. -/
def modifyAt {β : Type} (byKey : Bool) (change : TomlForm → TomlTable → Option (TomlTable × β)) :
    (path : List String) → TomlForm → TomlTable → Option (TomlTable × β)
  | [], form, t => change form t
  | key :: path, _, t =>
    match get? t key with
    | none => do
      let form := if byKey then TomlForm.dotted else .implied
      let (sub, result) ← modifyAt byKey change path form []
      return (t ++ [(key, .table form sub)], result)
    | some (.table form sub) =>
      if form = .inline || (byKey && form = .header) then none
      else do
        let (sub, result) ← modifyAt byKey change path form sub
        return (replace t key (.table form sub), result)
    | some (.tables items) =>
      match items.getLast? with
      | none => none
      | some sub => do
        let (sub, result) ← modifyAt byKey change path .header sub
        return (replace t key (.tables (items.dropLast ++ [sub])), result)
    | some _ => none

/-- Adds a field under a dotted key. The key must be new, and a table that a dotted key reaches must
come from dotted keys. -/
def addField (t : TomlTable) (path : List String) (key : String) (value : Toml) :
    Option TomlTable :=
  (modifyAt true (fun form sub =>
    if (form = .dotted) = path.isEmpty || (get? sub key).isSome then none
    else some (sub ++ [(key, value)], ())) path .header t).map (·.1)

end TomlTable

end ChainCrawl
