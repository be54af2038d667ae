import ChainCrawl.Decimal.Shortest
import ChainCrawl.Text.Quoted

namespace ChainCrawl.Shape

/-- What stands where something else was wanted. A float is given as text, since each format writes
it in its own way. -/
inductive Found where
  | null
  | bool (b : Bool)
  | int (i : Int)
  | float (text : String)
  | str (s : String)
  | sequence
  | map
  deriving DecidableEq

def Found.text : Found → String
  | null => "null"
  | bool b => s!"boolean `{b}`"
  | int i => s!"integer `{i}`"
  | float text => s!"floating point `{text}`"
  | str s => "string " ++ Text.quoted s
  | sequence => "sequence"
  | map => "map"

/-- A fault in the shape of data. -/
inductive Error where
  | missingField (name : String)
  | duplicateField (name : String)
  | unknownField (name : String) (known : List String)
  | unknownVariant (name : String) (known : List String)
  | invalidType (found : Found) (wanted : String)
  | invalidValue (found : Found) (wanted : String)
  | invalidLength (length : Nat) (wanted : String)
  /-- Something else than a name stands for a case, or more than a case. -/
  | notACase
  /-- More items than a record has fields. -/
  | itemsLeft
  /-- A time that cannot be read. -/
  | badTime
  /-- A leaf that stands for no value. -/
  | broken
  /-- A fault with a wording of its own. -/
  | other (text : String)
  deriving DecidableEq

def oneOf : List String → String
  | [] => "there are no fields"
  | [a] => s!"expected `{a}`"
  | [a, b] => s!"expected `{a}` or `{b}`"
  | names => "expected one of " ++ ", ".intercalate (names.map fun name => s!"`{name}`")

def Error.message : Error → String
  | missingField name => s!"missing field `{name}`"
  | duplicateField name => s!"duplicate field `{name}`"
  | unknownField name known => s!"unknown field `{name}`, {oneOf known}"
  | unknownVariant name known => s!"unknown variant `{name}`, {oneOf known}"
  | invalidType found wanted => s!"invalid type: {found.text}, expected {wanted}"
  | invalidValue found wanted => s!"invalid value: {found.text}, expected {wanted}"
  | invalidLength length wanted => s!"invalid length {length}, expected {wanted}"
  | notACase => "expected value"
  | itemsLeft => "trailing characters"
  | badTime => "<bad time>"
  | broken => "<broken>"
  | other text => text

/-- Data of the wanted shape, or the first fault. -/
abbrev Decoded := Except Error

def caseNamed {α : Type} (cases : List (String × α)) (name : String) : Decoded α :=
  match cases.find? (·.1 = name) with
  | some (_, a) => .ok a
  | none => .error (.unknownVariant name (cases.map (·.1)))

end ChainCrawl.Shape
