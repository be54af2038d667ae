import ChainCrawl.Shape.Fields
import ChainCrawl.Toml.Value
import ChainCrawl.Word

namespace ChainCrawl.Toml

open Shape (Found Fields Decoded)

variable {α : Type}

/-- Floats in messages never have an exponent. -/
def floatLayout : Decimal.Layout :=
  ⟨none⟩

def found : Toml → Found
  | str s => .str s
  | int i => .int i
  | float x => .float (Decimal.render floatLayout x)
  | bool b => .bool b
  | array _ | tables _ => .sequence
  | table _ _ | datetime => .map

def wrongType (v : Toml) (wanted : String) : Decoded α :=
  .error (.invalidType v.found wanted)

def asText : Toml → Decoded String
  | str s => .ok s
  | v => v.wrongType "a string"

def asBool : Toml → Decoded Bool
  | bool b => .ok b
  | v => v.wrongType "a boolean"

def asWhole (least greatest : Int) (wanted : String) : Toml → Decoded Int
  | int i => if least ≤ i ∧ i ≤ greatest then .ok i else .error (.invalidValue (.int i) wanted)
  | v => v.wrongType wanted

def asUInt32 (v : Toml) : Decoded UInt32 :=
  (v.asWhole 0 Word.maxUInt32 "u32").map fun i => i.toNat.toUInt32

def asUInt64 (v : Toml) : Decoded UInt64 :=
  (v.asWhole 0 Word.maxUInt64 "u64").map fun i => i.toNat.toUInt64

def asInt64 (v : Toml) : Decoded Int :=
  v.asWhole Word.minInt64 Word.maxInt64 "i64"

def asList (decode : Toml → Decoded α) : Toml → Decoded (List α)
  | array items => items.mapM decode
  | tables items => items.mapM fun fields => decode (table .header fields)
  | v => v.wrongType "a sequence"

/-- What stands beside the name of a case: nothing, in an array or a table. -/
def asNothing : Toml → Decoded Unit
  | array items => if items.isEmpty then .ok () else .error (.other "expected empty table")
  | tables items => if items.isEmpty then .ok () else .error (.other "expected empty array")
  | table _ fields => if fields.isEmpty then .ok () else .error (.other "expected empty table")
  | str _ => .error (.other "expected table, found string")
  | int _ => .error (.other "expected table, found integer")
  | float _ => .error (.other "expected table, found float")
  | bool _ => .error (.other "expected table, found boolean")
  | datetime => .error (.other "expected table, found datetime")

/-- A case, by its name or as a table with its name for the only field and nothing in it. -/
def asCase (cases : List (String × α)) : Toml → Decoded α
  | str s => Shape.caseNamed cases s
  | table _ [] => .error (.other "wanted exactly 1 element, found 0 elements")
  | table _ [(name, v)] => do
    let a ← Shape.caseNamed cases name
    v.asNothing
    return a
  | table _ _ => .error (.other "wanted exactly 1 element, more than 1 element")
  | _ => .error (.other "wanted string or table")

/-- The name under which a time holds its text. -/
def timeField : String :=
  "$__toml_private_datetime"

/-- A record that knows no other fields, from a table or from an array in the order of its fields;
items after the last field are not looked at. -/
def asRecord (name : String) (fields : Fields Toml α) : Toml → Decoded α
  | table _ entries => fields.ofEntries true (entries.map fun (key, v) => (some key, v))
  | array items => fields.ofItems name items
  | tables items => fields.ofItems name (items.map (table .header))
  | datetime => .error (.unknownField timeField fields.names)
  | v => v.wrongType s!"struct {name}"

end ChainCrawl.Toml
