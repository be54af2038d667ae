import ChainCrawl.Json.Value

namespace ChainCrawl.Json

/-- A JSON text as it is written. Fields keep their order and may repeat. A leaf that stands for no
value, a number out of range or a string with half of a surrogate pair, is kept as broken, so that a
reader that skips it is not disturbed by it; a field name is absent if it is broken. -/
inductive Document where
  | null
  | bool (b : Bool)
  | int (i : Int)
  | float (x : Float)
  | str (s : String)
  | broken
  | arr (items : List Document)
  | obj (fields : List (Option String × Document))

namespace Document

instance : Inhabited Document := ⟨null⟩

mutual
/-- The value of a document without broken leaves. -/
def toJson? : Document → Option Json
  | null => some .null
  | bool b => some (.bool b)
  | int i => some (.int i)
  | float x => some (.float x)
  | str s => some (.str s)
  | broken => none
  | arr items => (toItems? items).map .arr
  | obj fields => (toFields? fields).map fun fs => .obj (fieldsOfList fs)

def toItems? : List Document → Option (List Json)
  | [] => some []
  | d :: rest =>
    match d.toJson?, toItems? rest with
    | some v, some vs => some (v :: vs)
    | _, _ => none

def toFields? : List (Option String × Document) → Option (List (String × Json))
  | [] => some []
  | (some key, d) :: rest =>
    match d.toJson?, toFields? rest with
    | some v, some vs => some ((key, v) :: vs)
    | _, _ => none
  | (none, _) :: _ => none
end

mutual
def ofJson : Json → Document
  | .null => null
  | .bool b => bool b
  | .int i => int i
  | .float x => float x
  | .str s => str s
  | .arr items => arr (ofItems items)
  | .obj fields => obj (ofFields fields)

def ofItems : List Json → List Document
  | [] => []
  | v :: rest => ofJson v :: ofItems rest

def ofFields : List (String × Json) → List (Option String × Document)
  | [] => []
  | (key, v) :: rest => (some key, ofJson v) :: ofFields rest
end

mutual
def depth : Document → Nat
  | arr items => itemsDepth items + 1
  | obj fields => fieldsDepth fields + 1
  | _ => 0

def itemsDepth : List Document → Nat
  | [] => 0
  | d :: rest => max d.depth (itemsDepth rest)

def fieldsDepth : List (Option String × Document) → Nat
  | [] => 0
  | (_, d) :: rest => max d.depth (fieldsDepth rest)
end

def maxDepth : Nat := 127

/-- The value of a document that has one and does not nest too deep. -/
def value? (d : Document) : Option Json :=
  if d.depth ≤ maxDepth then d.toJson? else none

end Document

end ChainCrawl.Json
