import ChainCrawl.Text.Scan
import ChainCrawl.Time.Date
import ChainCrawl.Toml.Value
import ChainCrawl.Word

namespace ChainCrawl.Toml

open Text (Scan decimal)

def maxNesting : Nat := 79

def isSpace (c : Char) : Bool := c = ' ' || c = '\t'

def isBeyondAscii (c : Char) : Bool := 0x80 ≤ c.toNat

def isCommentChar (c : Char) : Bool :=
  c = '\t' || (0x20 ≤ c.toNat && c.toNat ≤ 0x7E) || isBeyondAscii c

def spaces : Scan Unit := do
  let _ ← Scan.takeWhile isSpace

def newline : Scan Unit
  | '\n' :: rest => some ((), rest)
  | '\r' :: '\n' :: rest => some ((), rest)
  | _ => none

def comment : Scan Unit := do
  match ← Scan.peek with
  | some '#' => let _ ← Scan.takeWhile isCommentChar
  | _ => return

def restOfLine : Scan Unit := do
  spaces
  comment
  match ← Scan.peek with
  | none => return
  | some _ => newline

def gaps : (fuel : Nat) → Scan Unit
  | 0 => return
  | fuel + 1 => do
    spaces
    comment
    match ← Scan.optional newline with
    | some () => gaps fuel
    | none => return

def hexDigit? (c : Char) : Option Nat :=
  if c.isDigit then some (c.toNat - '0'.toNat)
  else if 'a' ≤ c && c ≤ 'f' then some (c.toNat - 'a'.toNat + 10)
  else if 'A' ≤ c && c ≤ 'F' then some (c.toNat - 'A'.toNat + 10)
  else none

def ofDigits (base : Nat) (digits : List Char) : Nat :=
  digits.foldl (fun n c => n * base + (hexDigit? c).getD 0) 0

/-- The character of a code point; half of a surrogate pair has none. -/
def charOf? (n : Nat) : Option Char :=
  if h : n.isValidChar then some (Char.ofNatAux n h) else none

def escape : Scan Char := do
  match ← Scan.satisfy fun _ => true with
  | '"' => return '"'
  | '\\' => return '\\'
  | 'b' => return '\x08'
  | 'f' => return '\x0c'
  | 'n' => return '\n'
  | 'r' => return '\r'
  | 't' => return '\t'
  | 'u' => code 4
  | 'U' => code 8
  | _ => failure
where
  code (width : Nat) : Scan Char := do
    let digits ← Scan.takeExactly width fun c => (hexDigit? c).isSome
    StateT.lift (charOf? (ofDigits 16 digits))

def isTextChar (c : Char) : Bool :=
  isCommentChar c

def basicText : (fuel : Nat) → Scan (List Char)
  | 0 => failure
  | fuel + 1 => do
    match ← Scan.satisfy isTextChar with
    | '"' => return []
    | '\\' => return (← escape) :: (← basicText fuel)
    | c => return c :: (← basicText fuel)

/-- The rest of a text between single quotes, which knows no escapes. -/
def literalText : Scan (List Char) := do
  let cs ← Scan.takeWhile fun c => isTextChar c && c != '\''
  Scan.char '\''
  return cs

/-- The end of a text in triple quotes; up to two quotes more belong to the text. -/
def closeBlock (quote : Char) : Scan (List Char) := do
  Scan.literal [quote, quote, quote]
  match ← Scan.optional (Scan.takeUpTo 2 (· = quote)) with
  | some extra => return extra
  | none => return []

/-- A backslash at the end of a line, with the blanks and line ends that it joins. -/
def joinLines : Scan Unit := do
  spaces
  newline
  let cs ← get
  gapsOnly cs.length
where
  gapsOnly : (fuel : Nat) → Scan Unit
    | 0 => return
    | fuel + 1 => do
      spaces
      match ← Scan.optional newline with
      | some () => gapsOnly fuel
      | none => return

/-- The rest of a text in triple quotes. Between double quotes it knows escapes. -/
def blockText (quote : Char) : (fuel : Nat) → Scan (List Char)
  | 0 => failure
  | fuel + 1 => do
    match ← Scan.optional (closeBlock quote) with
    | some extra => return extra
    | none =>
      match ← Scan.optional newline with
      | some () => return '\n' :: (← blockText quote fuel)
      | none =>
        let c ← Scan.satisfy isTextChar
        if c = '\\' && quote = '"' then
          match ← Scan.optional joinLines with
          | some () => blockText quote fuel
          | none => return (← escape) :: (← blockText quote fuel)
        else return c :: (← blockText quote fuel)

def lineText : Scan String := do
  let cs ← get
  match ← Scan.satisfy fun _ => true with
  | '"' => return String.ofList (← basicText cs.length)
  | '\'' => return String.ofList (← literalText)
  | _ => failure

/-- A text of any form. -/
def text : Scan String := do
  let cs ← get
  match cs with
  | '"' :: '"' :: '"' :: rest => block '"' rest
  | '\'' :: '\'' :: '\'' :: rest => block '\'' rest
  | _ => lineText
where
  block (quote : Char) (rest : List Char) : Scan String := do
    set rest
    let _ ← Scan.optional newline
    return String.ofList (← blockText quote (rest.length + 1))

/-- A character of a key without quotes. -/
def isBareKeyChar (c : Char) : Bool :=
  c.isAlphanum || c = '_' || c = '-'

def simpleKey : Scan String := do
  match ← Scan.peek with
  | some '"' | some '\'' => lineText
  | _ =>
    let cs ← Scan.takeWhile isBareKeyChar
    guard !cs.isEmpty
    return String.ofList cs

def keyParts : (fuel : Nat) → Scan (List String)
  | 0 => failure
  | fuel + 1 => do
    spaces
    let part ← simpleKey
    spaces
    match ← Scan.optional (Scan.char '.') with
    | some () => return part :: (← keyParts fuel)
    | none => return [part]

/-- A key: the path to its table, and its last part. -/
def key : Scan (List String × String) := do
  let parts ← keyParts maxNesting
  match parts.getLast? with
  | some last => return (parts.dropLast, last)
  | none => failure

/-- Digits with single underscores between them, without the underscores. -/
def digitRun (test : Char → Bool) : Scan (List Char) := do
  let cs ← Scan.takeWhile fun c => test c || c = '_'
  guard (cs.head? != some '_' && cs.getLast? != some '_' && !cs.isEmpty)
  guard (!(cs.zip (cs.drop 1)).contains ('_', '_'))
  return cs.filter (· != '_')

/-- A sign, if there is one; `true` is minus. -/
def sign : Scan Bool := do
  match ← Scan.optional (Scan.satisfy fun c => c = '+' || c = '-') with
  | some c => return c = '-'
  | none => return false

/-- Decimal digits that do not start with a zero, unless they are a zero. -/
def wholeDigits : Scan (List Char) := do
  let digits ← digitRun Char.isDigit
  guard (digits.length = 1 || digits.head? != some '0')
  return digits

def checked (i : Int) : Scan Int := do
  guard (Word.minInt64 ≤ i && i ≤ Word.maxInt64)
  return i

def integer : Scan Int := do
  let cs ← get
  match cs with
  | '0' :: 'x' :: rest => based 16 (fun c => (hexDigit? c).isSome) rest
  | '0' :: 'o' :: rest => based 8 (fun c => '0' ≤ c && c ≤ '7') rest
  | '0' :: 'b' :: rest => based 2 (fun c => c = '0' || c = '1') rest
  | _ =>
    let negative ← sign
    let n := decimal (← wholeDigits)
    checked (if negative then -n else n)
where
  based (base : Nat) (test : Char → Bool) (rest : List Char) : Scan Int := do
    set rest
    checked (ofDigits base (← digitRun test))

def nearestFloat (mantissa : Nat) (exponent : Int) : Float :=
  let magnitude : Int := (Nat.toDigits 10 mantissa).length + exponent
  if mantissa = 0 || magnitude < -400 then 0.0
  else if 400 < magnitude then 1.0 / 0.0
  else if exponent < 0 then Float.ofScientific mantissa true (-exponent).toNat
  else Float.ofScientific mantissa false exponent.toNat

def decimalFloat : Scan Float := do
  let negative ← sign
  let whole ← wholeDigits
  let fraction ← Scan.optional do
    Scan.char '.'
    digitRun Char.isDigit
  let power ← Scan.optional do
    let _ ← Scan.satisfy fun c => c = 'e' || c = 'E'
    let below ← sign
    let n := decimal (← digitRun Char.isDigit)
    return if below then -(n : Int) else n
  guard (fraction.isSome || power.isSome)
  let digits := whole ++ fraction.getD []
  let x := nearestFloat (decimal digits) (power.getD 0 - (fraction.getD []).length)
  let x := if negative then -x else x
  guard (!(x.isInf && 0 < x))
  return x

def namedFloat : Scan Float := do
  let negative ← sign
  let x : Float ← (do Scan.literal "inf".toList; return 1.0 / 0.0) <|>
    (do Scan.literal "nan".toList; return 0.0 / 0.0)
  return if negative then -x else x

/-- A number of exactly so many digits between two bounds. -/
def datePart (width least greatest : Nat) : Scan Nat := do
  let n := decimal (← Scan.takeExactly width Char.isDigit)
  guard (least ≤ n && n ≤ greatest)
  return n

def date : Scan Unit := do
  let year ← datePart 4 0 9999
  Scan.char '-'
  let month ← datePart 2 1 12
  Scan.char '-'
  let day ← datePart 2 1 31
  guard (Time.Date.mk year month day).exists?

def timeOfDay : Scan Unit := do
  let _ ← datePart 2 0 23
  Scan.char ':'
  let _ ← datePart 2 0 59
  Scan.char ':'
  let _ ← datePart 2 0 60
  let _ ← Scan.optional do
    Scan.char '.'
    let digits ← Scan.takeWhile Char.isDigit
    guard !digits.isEmpty

def timeOffset : Scan Unit :=
  (do let _ ← Scan.satisfy fun c => c = 'Z' || c = 'z') <|>
  (do
    let _ ← Scan.satisfy fun c => c = '+' || c = '-'
    let _ ← datePart 2 0 23
    Scan.char ':'
    let _ ← datePart 2 0 59)

def dateOrTime : Scan Unit :=
  (do
    date
    let _ ← Scan.optional do
      let _ ← Scan.satisfy fun c => c = 'T' || c = 't' || c = ' '
      timeOfDay
      let _ ← Scan.optional timeOffset) <|>
  timeOfDay

def number : Scan Toml :=
  (do dateOrTime; return .datetime) <|> (return .float (← decimalFloat)) <|>
  (return .float (← namedFloat)) <|> (return .int (← integer))

mutual
def value : (fuel depth : Nat) → Scan Toml
  | 0, _ => failure
  | fuel + 1, depth => do
    match ← Scan.peek with
    | some '"' | some '\'' => return .str (← text)
    | some '[' =>
      guard (depth < maxNesting)
      Scan.char '['
      return .array (← arrayItems fuel (depth + 1))
    | some '\x7b' =>
      guard (depth < maxNesting)
      Scan.char '\x7b'
      spaces
      match ← Scan.optional (Scan.char '\x7d') with
      | some () => return .table .inline []
      | none => return .table .inline (← inlineFields fuel (depth + 1) [])
    | some 't' => do Scan.literal "true".toList; return .bool true
    | some 'f' => do Scan.literal "false".toList; return .bool false
    | _ => number

def arrayItems : (fuel depth : Nat) → Scan (List Toml)
  | 0, _ => failure
  | fuel + 1, depth => do
    gaps fuel
    match ← Scan.optional (Scan.char ']') with
    | some () => return []
    | none =>
      let item ← value fuel depth
      gaps fuel
      match ← Scan.satisfy fun _ => true with
      | ',' => return item :: (← arrayItems fuel depth)
      | ']' => return [item]
      | _ => failure

def inlineFields : (fuel depth : Nat) → TomlTable → Scan TomlTable
  | 0, _, _ => failure
  | fuel + 1, depth, fields => do
    let (path, name) ← key
    Scan.char '='
    spaces
    let item ← value fuel depth
    spaces
    let fields ← StateT.lift (TomlTable.addField fields path name item)
    match ← Scan.satisfy fun _ => true with
    | ',' => inlineFields fuel depth fields
    | '\x7d' => return fields
    | _ => failure
end

/-- What has been read of a text. -/
structure Progress where
  /-- The finished tables. -/
  root : TomlTable := []
  /-- The table whose fields are being read. -/
  current : TomlTable := []
  /-- The header of that table; none at the start of the text. -/
  header : Option (List String × String) := none
  /-- The header stands in double brackets. -/
  repeated : Bool := false

namespace Progress

/-- The tables after the current one has been put in its place. -/
def finish (p : Progress) : Option TomlTable :=
  match p.header with
  | none => some p.current
  | some (path, name) =>
    (TomlTable.modifyAt false (fun _ sub =>
      match p.repeated, TomlTable.get? sub name with
      | true, some (.tables items) =>
        some (TomlTable.replace sub name (.tables (items ++ [p.current])), ())
      | false, none => some (sub ++ [(name, .table .header p.current)], ())
      | _, _ => none) path .header p.root).map (·.1)

/-- A header: the table it names becomes the current one. A table that so far was only implied is
taken up again. -/
def openTable (p : Progress) (path : List String) (name : String) : Option Progress := do
  let root ← p.finish
  let (root, fields) ← TomlTable.modifyAt false (fun _ sub =>
    match TomlTable.get? sub name with
    | none => some (sub, [])
    | some (.table .implied fields) => some (sub.filter (·.1 ≠ name), fields)
    | some _ => none) path .header root
  return ⟨root, fields, some (path, name), false⟩

/-- A header in double brackets: a further table under its name becomes the current one. -/
def openRepeated (p : Progress) (path : List String) (name : String) : Option Progress := do
  let root ← p.finish
  let (root, _) ← TomlTable.modifyAt false (fun _ sub =>
    match TomlTable.get? sub name with
    | none => some (sub ++ [(name, .tables [])], ())
    | some (.tables _) => some (sub, ())
    | some _ => none) path .header root
  return ⟨root, [], some (path, name), true⟩

def addField (p : Progress) (path : List String) (name : String) (value : Toml) :
    Option Progress := do
  return { p with current := ← TomlTable.addField p.current path name value }

end Progress

def line (p : Progress) : Scan Progress := do
  spaces
  let cs ← get
  match cs with
  | [] => return p
  | '#' :: _ | '\n' :: _ | '\r' :: _ =>
    restOfLine
    return p
  | '[' :: '[' :: rest =>
    set rest
    let (path, name) ← key
    Scan.literal "]]".toList
    restOfLine
    StateT.lift (p.openRepeated path name)
  | '[' :: rest =>
    set rest
    let (path, name) ← key
    Scan.char ']'
    restOfLine
    StateT.lift (p.openTable path name)
  | _ =>
    let (path, name) ← key
    Scan.char '='
    spaces
    let item ← value cs.length 0
    restOfLine
    StateT.lift (p.addField path name item)

def lines : (fuel : Nat) → Progress → Scan Progress
  | 0, p => return p
  | fuel + 1, p => do
    match ← Scan.peek with
    | none => return p
    | some _ => lines fuel (← line p)

/-- The table that a text writes; a byte order mark in front is passed over. The text is a sequence
of lines, each a field, a header or neither; the fields after a header belong to the table it names.
-/
def read? (s : String) : Option TomlTable := do
  let cs := match s.toList with
    | '\ufeff' :: rest => rest
    | cs => cs
  let p ← (lines cs.length {}).all (String.ofList cs)
  p.finish

end ChainCrawl.Toml
