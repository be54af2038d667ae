import ChainCrawl.Text.Integer

namespace ChainCrawl.Web

def percent (b : UInt8) : List Char :=
  let digit (n : Nat) : Char := (Nat.digitChar n).toUpper
  ['%', digit (b.toNat / 16), digit (b.toNat % 16)]

def percentChar (c : Char) : List Char :=
  (String.utf8EncodeChar c).flatMap percent

def isPrintable (c : Char) : Bool :=
  0x20 ≤ c.toNat && c.toNat ≤ 0x7E

/-- The text with the bytes of the given characters written out, and of those that are not
printable. -/
def escape (reserved : List Char) (cs : List Char) : String :=
  String.ofList (cs.flatMap fun c =>
    if isPrintable c && !reserved.contains c then [c] else percentChar c)

/-- The bytes that a text stands for. A percent sign without two digits stands for itself. -/
def escapedBytes : List Char → List UInt8
  | [] => []
  | '%' :: high :: low :: rest =>
    match Text.digit? 16 high, Text.digit? 16 low with
    | some h, some l => UInt8.ofNat (16 * h + l) :: escapedBytes rest
    | _, _ => String.utf8EncodeChar '%' ++ escapedBytes (high :: low :: rest)
  | c :: rest => String.utf8EncodeChar c ++ escapedBytes rest

/-- The text that a text with percent signs stands for; none if its bytes are no text. -/
def unescape? (cs : List Char) : Option String :=
  String.fromUTF8? ⟨(escapedBytes cs).toArray⟩

def formChar (c : Char) : List Char :=
  if c = ' ' then ['+']
  else if c.isAlphanum || c = '*' || c = '-' || c = '.' || c = '_' then [c]
  else percentChar c

def formText (s : String) : String :=
  String.ofList (s.toList.flatMap formChar)

def formQuery (params : List (String × String)) : String :=
  "&".intercalate (params.map fun (name, value) => formText name ++ "=" ++ formText value)

end ChainCrawl.Web
