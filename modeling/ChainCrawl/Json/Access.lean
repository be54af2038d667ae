import ChainCrawl.Json.Value

namespace ChainCrawl.Json

def field (v : Json) (key : String) : Json :=
  (v.get? key).getD null

def given? : Json → Option Json
  | null => none
  | v => some v

def textD (v : Json) : String :=
  v.str?.getD ""

def intD : Json → Int
  | int i => i
  | _ => 0

def natD (v : Json) : Nat :=
  v.intD.toNat

def boolD : Json → Bool
  | bool b => b
  | _ => false

def items : Json → List Json
  | arr vs => vs
  | _ => []

def fields : Json → List (String × Json)
  | obj fs => fs
  | _ => []

def optionalField (name : String) : Option Json → List (String × Json)
  | some v => [(name, v)]
  | none => []

def ofNat (n : Nat) : Json :=
  int n

def ofOption {α : Type} (f : α → Json) : Option α → Json
  | some a => f a
  | none => null

def ofTexts (texts : List String) : Json :=
  arr (texts.map str)

end ChainCrawl.Json
