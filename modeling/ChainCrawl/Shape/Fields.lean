import ChainCrawl.Shape.Error

namespace ChainCrawl.Shape

/-- A field of a record, whose data has type `δ`. -/
structure Field (δ : Type) where
  name : String
  /-- The fault of the field's data, if it has one. -/
  check : δ → Decoded Unit
  /-- A sequence may end before this field. -/
  mayEnd : Bool

/-- How a record is read: its fields, and its value from the data of each field. The fields are
looked at in the order in which they are written, and the first fault counts; only then are missing
fields reported, in the order in which the record declares them. -/
structure Fields (δ α : Type) where
  list : List (Field δ)
  build : (String → Option δ) → Decoded α

namespace Fields

variable {δ α β : Type}

instance : Applicative (Fields δ) where
  pure a := ⟨[], fun _ => .ok a⟩
  seq f x :=
    let x := x ()
    ⟨f.list ++ x.list, fun data => do
      let g ← f.build data
      let a ← x.build data
      return g a⟩

/-- A field that a reader may leave out, with the value that it then has. -/
def fieldOr (name : String) (mayEnd : Bool) (absent : Decoded α) (decode : δ → Decoded α) :
    Fields δ α where
  list := [⟨name, fun d => (decode d).map fun _ => (), mayEnd⟩]
  build data := match data name with
    | some d => decode d
    | none => absent

def field (name : String) (decode : δ → Decoded α) : Fields δ α :=
  fieldOr name false (.error (.missingField name)) decode

/-- A field that is absent where its name is not written; a sequence must still hold it. -/
def optional (name : String) (decode : δ → Decoded (Option α)) : Fields δ (Option α) :=
  fieldOr name false (.ok none) decode

/-- A field with a value of its own where it is not written. -/
def fieldD (name : String) (decode : δ → Decoded α) (absent : α) : Fields δ α :=
  fieldOr name true (.ok absent) decode

variable (fields : Fields δ α)

def names : List String :=
  fields.list.map (·.name)

/-- The first fault of fields given by name. A closed record knows no other fields. -/
def checkEntries (closed : Bool) (seen : List String) : List (Option String × δ) → Decoded Unit
  | [] => .ok ()
  | (none, _) :: _ => .error .broken
  | (some name, d) :: rest =>
    match fields.list.find? (·.name = name) with
    | none =>
      if closed then .error (.unknownField name fields.names) else checkEntries closed seen rest
    | some field =>
      if seen.contains name then .error (.duplicateField name)
      else do
        field.check d
        checkEntries closed (name :: seen) rest

def dataOf? (entries : List (Option String × δ)) (name : String) : Option δ :=
  (entries.find? (·.1 = some name)).map (·.2)

def ofEntries (closed : Bool) (entries : List (Option String × δ)) : Decoded α := do
  fields.checkEntries closed [] entries
  fields.build (dataOf? entries)

/-- The first fault of a sequence of fields from the one at `position` on. -/
def checkItems (wanted : String) (position : Nat) : List (Field δ) → List δ → Decoded Unit
  | [], _ => .ok ()
  | field :: rest, d :: more => do
    field.check d
    checkItems wanted (position + 1) rest more
  | field :: rest, [] =>
    if field.mayEnd then checkItems wanted (position + 1) rest []
    else .error (.invalidLength position wanted)

/-- The record of a sequence of fields; items after the last field are not looked at. -/
def ofItems (name : String) (items : List δ) : Decoded α := do
  let count := fields.list.length
  let plural := if count = 1 then "element" else "elements"
  checkItems s!"struct {name} with {count} {plural}" 0 fields.list items
  fields.build fun name => ((fields.names.zip items).find? (·.1 = name)).map (·.2)

end Fields

end ChainCrawl.Shape
