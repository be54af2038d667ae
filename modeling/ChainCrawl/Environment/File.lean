import ChainCrawl.Environment.Basic
import ChainCrawl.Text.Alphanumeric
import ChainCrawl.Text.Blank
import ChainCrawl.Text.Scan

namespace ChainCrawl.Environment

open Text (Scan)

/-- What the characters so far say about the end of an entry. -/
inductive LineState where
  | plain
  /-- After a blank, where a comment may start. -/
  | blank
  | escape
  | single
  | singleEscape
  | double
  | doubleEscape
  deriving DecidableEq

def LineState.next : LineState → Char → LineState
  | plain, c =>
    if Text.isBlank c && c != '\n' && c != '\r' then blank else openedBy c
  | blank, c => openedBy c
  | escape, _ => plain
  | single, c => if c = '\\' then singleEscape else if c = '\'' then plain else single
  | singleEscape, _ => single
  | double, c => if c = '\\' then doubleEscape else if c = '"' then plain else double
  | doubleEscape, _ => double
where
  openedBy (c : Char) : LineState :=
    if c = '\\' then escape
    else if c = '"' then double
    else if c = '\'' then single
    else plain

def afterLine (cs : List Char) : List Char :=
  (cs.dropWhile (· != '\n')).drop 1

/-- The rest of an entry, and the text after its last line; none if the text ends inside it. -/
def splitEntry (state : LineState) : List Char → Option (List Char × List Char)
  | [] => if state = .plain then some ([], []) else none
  | c :: rest =>
    if state = .blank && c = '#' then some ([], afterLine rest)
    else if c = '\n' && state.next c = .plain then some ([], rest)
    else (splitEntry (state.next c) rest).map fun (entry, after) => (c :: entry, after)

/-- How the next character of a value is read; `quoted` means inside double quotes. -/
inductive ValueState where
  | text (quoted : Bool)
  | single
  | escape (quoted : Bool)
  /-- In the name of a variable after a dollar sign. -/
  | name (quoted : Bool) (soFar : List Char)
  /-- In the name of a variable in braces. -/
  | braced (quoted : Bool) (soFar : List Char)
  /-- After a blank: only a comment may follow. -/
  | ended
  | comment

/-- What a variable stands for in a value; one that is not set stands for nothing. -/
def substitute (env : Environment) (name : List Char) : List Char :=
  ((env.get? (String.ofList name)).getD "").toList

/-- The state after one more character, and the characters that this adds to the value. -/
def ValueState.next (env : Environment) : ValueState → Char → Option (ValueState × List Char)
  | ended, c =>
    if c = ' ' || c = '\t' then some (ended, [])
    else if c = '#' then some (comment, [])
    else none
  | comment, _ => some (comment, [])
  | escape quoted, c =>
    if ['\\', '\'', '"', '$', ' '].contains c then some (.text quoted, [c])
    else if c = 'n' then some (.text quoted, ['\n'])
    else none
  | single, c => some (if c = '\'' then (.text false, []) else (single, [c]))
  | name quoted soFar, c =>
    if Text.isAlphanumeric c then some (name quoted (soFar ++ [c]), [])
    else if c = '\x7b' && soFar.isEmpty then some (braced quoted [], [])
    else if c = '$' then some (name quoted [], substitute env soFar)
    else some (.text quoted, substitute env soFar ++ [c])
  | braced quoted soFar, c =>
    if c = '\x7d' then some (.text quoted, substitute env soFar)
    else some (braced quoted (soFar ++ [c]), [])
  | .text quoted, c =>
    if c = '$' then some (name quoted [], [])
    else if c = '\\' then some (escape quoted, [])
    else if c = '"' then some (.text !quoted, [])
    else if quoted then some (.text true, [c])
    else if c = '\'' then some (single, [])
    else if c = ' ' || c = '\t' then some (ended, [])
    else some (.text false, [c])

/-- What the end of an entry adds to the value; quotes and braces must be closed. -/
def ValueState.finish (env : Environment) : ValueState → Option (List Char)
  | name false soFar => some (substitute env soFar)
  | .text false | escape false | ended | comment => some []
  | _ => none

def valueFrom (env : Environment) (state : ValueState) : List Char → Option (List Char)
  | [] => state.finish env
  | c :: rest => do
    let (state, added) ← state.next env c
    return added ++ (← valueFrom env state rest)

def variableName : Scan String := do
  let first ← Scan.satisfy fun c => c.isAlpha || c = '_'
  let more ← Scan.takeWhile fun c => c.isAlphanum || c = '_' || c = '.'
  return String.ofList (first :: more)

def blanks : Scan Unit := do
  let _ ← Scan.takeWhile Text.isBlank

/-- A name and an equals sign; the word `export` may stand in front. -/
def assignedName : Scan String := do
  let name ← variableName
  blanks
  match ← Scan.optional (Scan.char '=') with
  | some () => return name
  | none =>
    guard (name = "export")
    let name ← variableName
    blanks
    Scan.char '='
    return name

def isBare : List Char → Bool
  | [] => true
  | c :: _ => c = '#'

/-- The variable that an entry provides, if it is no comment; none for an entry that cannot be
read. -/
def assignment? (env : Environment) (cs : List Char) : Option (Option (String × String)) := do
  let cs := Text.skipBlanks (Text.skipBlanks cs.reverse).reverse
  if isBare cs then return none
  let (name, rest) ← assignedName cs
  let rest := Text.skipBlanks rest
  if isBare rest then return some (name, "")
  return some (name, String.ofList (← valueFrom env (.text false) rest))

/-- Provides the variables of the entries `NAME=value` in a text, one on a line unless quotes join
lines. The first entry that cannot be read ends it, and the entries before that one count. -/
def provideFrom : (fuel : Nat) → List Char → Environment → Environment
  | 0, _, env => env
  | _, [], env => env
  | fuel + 1, cs, env =>
    if (Text.skipBlanks (cs.takeWhile (· != '\n'))).head? = some '#' then
      provideFrom fuel (afterLine cs) env
    else
      match splitEntry .plain cs with
      | none => env
      | some (entry, rest) =>
        match assignment? env entry with
        | none => env
        | some none => provideFrom fuel rest env
        | some (some (name, value)) => provideFrom fuel rest (env.provide name value)

/-- Provides the variables of a file; a byte order mark in front is passed over. -/
def provideFile (env : Environment) (text : String) : Environment :=
  let cs := match text.toList with
    | '\ufeff' :: rest => rest
    | cs => cs
  provideFrom cs.length cs env

end ChainCrawl.Environment
