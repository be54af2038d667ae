import ChainCrawl.Json.Reader
import ChainCrawl.Json.Writer
import ChainCrawl.Shape.Fields
import ChainCrawl.Time.Timestamp
import ChainCrawl.Word

namespace ChainCrawl.Shape

open ChainCrawl.Json (Document)

/-- Where a document comes from. -/
inductive Origin where
  | text
  | value
  deriving DecidableEq

def found : Document → Except Error Found
  | .null => .ok .null
  | .bool b => .ok (.bool b)
  | .int i => .ok (.int i)
  | .float x => .ok (.float (Decimal.render Json.floatLayout x))
  | .str s => .ok (.str s)
  | .broken => .error .broken
  | .arr _ => .ok .sequence
  | .obj _ => .ok .map

def wrongType {α : Type} (d : Document) (wanted : String) : Decoded α := do
  .error (.invalidType (← found d) wanted)

def text : Document → Decoded String
  | .str s => .ok s
  | d => wrongType d "a string"

def orNull {α : Type} (decode : Document → Decoded α) : Document → Decoded (Option α)
  | .null => .ok none
  | d => (decode d).map some

def wholeBetween (least greatest : Int) (wanted : String) : Document → Decoded Int
  | .int i => if least ≤ i ∧ i ≤ greatest then .ok i else .error (.invalidValue (.int i) wanted)
  | d => wrongType d wanted

def uint32 (d : Document) : Decoded UInt32 :=
  (wholeBetween 0 Word.maxUInt32 "u32" d).map fun i => i.toNat.toUInt32

def int64 (d : Document) : Decoded Int :=
  wholeBetween Word.minInt64 Word.maxInt64 "i64" d

def list {α : Type} (decode : Document → Decoded α) : Document → Decoded (List α)
  | .arr items => items.mapM decode
  | d => wrongType d "a sequence"

def instant : Document → Decoded Time.Instant
  | .str s =>
    match Time.Instant.read? s with
    | some t => .ok t
    | none => .error .badTime
  | d => wrongType d "an RFC 3339 formatted date and time string"

def json (outer : Nat) (d : Document) : Decoded Json :=
  if d.depth + outer ≤ Document.maxDepth then
    match d.toJson? with
    | some v => .ok v
    | none => .error .broken
  else .error .broken

/-- A case, by its name or as an object with its name for the only field and nothing in it. -/
def oneCase {α : Type} (cases : List (String × α)) : Document → Decoded α
  | .str s => caseNamed cases s
  | .obj ((some name, d) :: rest) => do
    let a ← caseNamed cases name
    match d with
    | .null => if rest.isEmpty then .ok a else .error .notACase
    | d => wrongType d "unit"
  | .obj ((none, _) :: _) => .error .broken
  | .broken => .error .broken
  | _ => .error .notACase

/-- A record, from an object or from an array in the order of its fields. -/
def record {α : Type} (origin : Origin) (name : String) (fields : Fields Document α) :
    Document → Decoded α
  | .obj entries => fields.ofEntries false entries
  | .arr items => do
    let a ← fields.ofItems name items
    if items.length ≤ fields.list.length then return a
    else match origin with
      | .text => .error .itemsLeft
      | .value => .error (.invalidLength items.length "fewer elements in array")
  | d => wrongType d s!"struct {name}"

/-- What can be wrong with a text that should hold a value of a type. -/
inductive TextError where
  /-- The text is no JSON document, or not one that stands for a value. -/
  | syntaxError
  | shape (e : Error)
  deriving DecidableEq

def TextError.message : TextError → String
  | syntaxError => "<json syntax>"
  | shape e => e.message

/-- Reads a value from a text. Where the shape is at fault in a document that stands for no value
anyway, the text is at fault. -/
def fromText {α : Type} (decode : Document → Decoded α) (s : String) : Except TextError α :=
  match Document.read? s with
  | none => .error .syntaxError
  | some d =>
    match decode d with
    | .ok a => .ok a
    | .error e => .error (if d.value?.isSome then .shape e else .syntaxError)

def fromJson {α : Type} (decode : Document → Decoded α) (v : Json) : Decoded α :=
  decode (Document.ofJson v)

end ChainCrawl.Shape
