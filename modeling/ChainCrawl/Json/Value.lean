import ChainCrawl.Word

namespace ChainCrawl

/-- A JSON value. An object is a map: its fields are held in ascending order of their names, each
name once. The same type with fields in any order describes a text still to be written. -/
inductive Json where
  | null
  | bool (b : Bool)
  | int (i : Int)
  | float (x : Float)
  | str (s : String)
  | arr (items : List Json)
  | obj (fields : List (String × Json))

namespace Json

/-- Sets the field `key` of an object given by its fields, which stay in ascending order. -/
def insert (key : String) (value : Json) : List (String × Json) → List (String × Json)
  | [] => [(key, value)]
  | (k, v) :: rest =>
    if key < k then (key, value) :: (k, v) :: rest
    else if key = k then (key, value) :: rest
    else (k, v) :: insert key value rest

/-- The fields of an object, from fields in any order; the last one of a name counts. -/
def fieldsOfList (fields : List (String × Json)) : List (String × Json) :=
  fields.foldl (fun object (key, value) => insert key value object) []

def lookup (key : String) (fields : List (String × Json)) : Option Json :=
  (fields.find? fun field => field.1 = key).map (·.2)

def get? (key : String) : Json → Option Json
  | obj fields => lookup key fields
  | _ => none

def str? : Json → Option String
  | str s => some s
  | _ => none

def isObject : Json → Bool
  | obj _ => true
  | _ => false

instance : Inhabited Json := ⟨null⟩

def ofText? : Option String → Json
  | some s => str s
  | none => null

mutual
/-- Every object inside is a map with ascending field names, and every whole number fits 64 bits,
signed or unsigned. -/
def Canonical : Json → Prop
  | int i => Word.minInt64 ≤ i ∧ i ≤ Word.maxUInt64
  | arr items => CanonicalItems items
  | obj fields => fields.Pairwise (·.1 < ·.1) ∧ CanonicalFields fields
  | _ => True

def CanonicalItems : List Json → Prop
  | [] => True
  | v :: rest => v.Canonical ∧ CanonicalItems rest

def CanonicalFields : List (String × Json) → Prop
  | [] => True
  | (_, v) :: rest => v.Canonical ∧ CanonicalFields rest
end

mutual
def depth : Json → Nat
  | arr items => itemsDepth items + 1
  | obj fields => fieldsDepth fields + 1
  | _ => 0

def itemsDepth : List Json → Nat
  | [] => 0
  | v :: rest => max v.depth (itemsDepth rest)

def fieldsDepth : List (String × Json) → Nat
  | [] => 0
  | (_, v) :: rest => max v.depth (fieldsDepth rest)
end

end Json

end ChainCrawl
