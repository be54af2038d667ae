import ChainCrawl.Decimal.Shortest
import ChainCrawl.Json.Value
import ChainCrawl.Text.Quoted

namespace ChainCrawl.Json

/-- Floats always have a point or an exponent; sixteen digits may stand before the point and
four zeros after it. -/
def floatLayout : Decimal.Layout where
  positional := some (-4, 16)

/-- A control character without a letter of its own. -/
def escapeUnit (c : Char) : List Char :=
  ['\\', 'u', '0', '0', Nat.digitChar (c.toNat / 16), Nat.digitChar (c.toNat % 16)]

/-- One character of a text. A quote, a backslash and the control characters are escaped, and all
else is written as it is. -/
def escape (c : Char) : List Char :=
  match c with
  | '"' => ['\\', '"']
  | '\\' => ['\\', '\\']
  | '\x08' => ['\\', 'b']
  | '\x0c' => ['\\', 'f']
  | '\n' => ['\\', 'n']
  | '\r' => ['\\', 'r']
  | '\t' => ['\\', 't']
  | c => if c.toNat < 0x20 then escapeUnit c else [c]

def renderText (s : String) : List Char :=
  '"' :: s.toList.flatMap escape ++ ['"']

def renderInt : Int → List Char
  | .ofNat n => Nat.toDigits 10 n
  | .negSucc n => '-' :: Nat.toDigits 10 (n + 1)

mutual
def renderValue : Json → List Char
  | null => "null".toList
  | bool true => "true".toList
  | bool false => "false".toList
  | int i => renderInt i
  | float x => (Decimal.render floatLayout x).toList
  | str s => renderText s
  | arr items => '[' :: renderItems items ++ [']']
  | obj fields => '\x7b' :: renderFields fields ++ ['\x7d']

def renderItems : List Json → List Char
  | [] => []
  | [v] => renderValue v
  | v :: w :: rest => renderValue v ++ ',' :: renderItems (w :: rest)

def renderFields : List (String × Json) → List Char
  | [] => []
  | [(key, v)] => renderText key ++ ':' :: renderValue v
  | (key, v) :: w :: rest =>
    renderText key ++ ':' :: renderValue v ++ ',' :: renderFields (w :: rest)
end

def render (v : Json) : String :=
  String.ofList v.renderValue

end ChainCrawl.Json
