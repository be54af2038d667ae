import ChainCrawl.Web.Address

namespace ChainCrawl.Web

/-- What the scheme says about the rest of an address. -/
inductive SchemeKind where
  /-- A host with a name follows, whatever number of slashes is written. -/
  | named
  /-- A file, mostly on no host. -/
  | file
  /-- All else is kept as it is written. -/
  | other
  deriving DecidableEq

namespace SchemeKind

def ofScheme (scheme : String) : SchemeKind :=
  if ["http", "https", "ws", "wss", "ftp"].contains scheme then named
  else if scheme = "file" then file
  else other

def isSlash (kind : SchemeKind) (c : Char) : Bool :=
  c = '/' || (c = '\\' && kind ≠ .other)

end SchemeKind

namespace Address

/-- The port that need not be written. -/
def usualPort? (scheme : String) : Option Nat :=
  [("http", 80), ("https", 443), ("ws", 80), ("wss", 443), ("ftp", 21)].lookup scheme

/-- The text without the blanks and controls around it, and without line breaks and tabs. -/
def tidy (s : String) : List Char :=
  let isEdge (c : Char) : Bool := c.toNat ≤ 0x20
  let trimmed := ((s.toList.dropWhile isEdge).reverse.dropWhile isEdge).reverse
  trimmed.filter fun c => c != '\t' && c != '\n' && c != '\r'

/-- The scheme before the first colon, in small letters, and what follows the colon. -/
def cutScheme? (cs : List Char) : Option (String × List Char) :=
  match Text.cutBefore (· = ':') cs with
  | (c :: more, _ :: rest) =>
    if c.isAlpha && more.all fun d => d.isAlphanum || d = '+' || d = '-' || d = '.' then
      some (String.ofList ((c :: more).map Char.toLower), rest)
    else none
  | _ => none

def userReserved : List Char :=
  Path.reserved ++ ['/', ':', ';', '=', '@', '[', '\\', ']', '^', '|']

def queryReserved (kind : SchemeKind) : List Char :=
  [' ', '"', '#', '<', '>'] ++ if kind = .other then [] else ['\'']

def fragmentReserved : List Char :=
  [' ', '"', '<', '>', '\x60']

/-- The user name, and the password if it is not empty. -/
def readUser (cs : List Char) : String × Option String :=
  let (user, rest) := Text.cutBefore (· = ':') cs
  let password := rest.drop 1
  (escape userReserved user, if password.isEmpty then none else some (escape userReserved password))

/-- The host, and the rest from the colon before the port. A colon between brackets is part of the
host. -/
def cutHost (inBrackets : Bool) : List Char → List Char × List Char
  | [] => ([], [])
  | c :: rest =>
    if c = ':' && !inBrackets then ([], c :: rest)
    else
      let (host, port) := cutHost (c = '[' || (inBrackets && c != ']')) rest
      (c :: host, port)

/-- The port that is written after a colon, if it is not the usual one. -/
def readPort? (scheme : String) (digits : List Char) : Option (Option Nat) := do
  guard (digits.all Char.isDigit)
  let port := Nat.ofDigitChars 10 digits 0
  guard (port ≤ 65535)
  return (some port).filter fun port => !digits.isEmpty && usualPort? scheme ≠ some port

def readHost? (kind : SchemeKind) (cs : List Char) : Option Host :=
  if kind = .other then Host.readVerbatim? cs else Host.readName? cs

/-- The authority that a text writes, and the part of it behind the port that belongs to the path.
Without a host there is no port and no user; a lone `@` is an authority only at the end. -/
def readAuthority? (kind : SchemeKind) (scheme : String) (cs : List Char) (isEnd : Bool) :
    Option (Authority × List Char) := do
  let visit? := Text.cutAtLast? (· = '@') cs
  guard (visit? ≠ some ([], []) || isEnd)
  let (user, visited) := visit?.getD ([], cs)
  let (hostText, portText) := cutHost false visited
  let host ← readHost? kind hostText
  let (digits, rest) := Text.cutBefore (· = '\\') (portText.drop 1)
  let port ← readPort? scheme digits
  let (name, password) := readUser user
  let authority : Authority := ⟨name, password, host, port⟩
  guard (!(host.isEmpty && (!portText.isEmpty || authority.credentials ≠ "")))
  return (authority, rest)

/-- The address up to its query. -/
structure Front where
  authority : Option Authority
  path : Path

def readAuthorized? (kind : SchemeKind) (scheme : String) (cs : List Char) (isEnd : Bool) :
    Option Front := do
  let (before, after) := Text.cutBefore kind.isSlash cs
  let (authority, rest) ← readAuthority? kind scheme before (isEnd && after.isEmpty)
  let path := if rest.isEmpty then after.drop 1 else rest ++ after
  let isRootless := kind = .other && rest.isEmpty && after.isEmpty
  return ⟨some authority, if isRootless then .steps [] else Path.read kind.isSlash path⟩

def fileAuthority (host : Host) : Authority :=
  ⟨"", none, if host = .name "localhost" then .name "" else host, none⟩

def readFile? (cs : List Char) : Option Front := do
  let isSlash := SchemeKind.file.isSlash
  let unhosted (path : List Char) : Front :=
    ⟨some (fileAuthority (.name "")), (Path.readFile isSlash path).1⟩
  match cs with
  | first :: second :: rest =>
    if isSlash first && isSlash second then
      let (hostText, path) := Text.cutBefore isSlash rest
      if hostText.isEmpty || Path.isDrive hostText then return unhosted rest
      else
        let host ← Host.readName? hostText
        let (path, namesDrive) := Path.readFile isSlash (path.drop 1)
        return ⟨some (fileAuthority (if namesDrive then .name "" else host)), path⟩
    else return unhosted cs
  | _ => return unhosted cs

/-- Reads an address up to its query, from behind the scheme. -/
def readFront? (kind : SchemeKind) (scheme : String) (cs : List Char) (isEnd : Bool) :
    Option Front :=
  match kind with
  | .named => readAuthorized? kind scheme (cs.dropWhile kind.isSlash) isEnd
  | .file => readFile? cs
  | .other =>
    match cs with
    | '/' :: '/' :: rest => readAuthorized? kind scheme rest isEnd
    | '/' :: rest => some ⟨none, Path.read kind.isSlash rest⟩
    | _ => some ⟨none, .bare (escape [] cs)⟩

def after? (mark : Char) : List Char → Option (List Char)
  | c :: rest => if c = mark then some rest else none
  | [] => none

/-- The address that a text writes, in normal form: blanks around it and line breaks inside it are
passed over, letters of the scheme and of a named host become small, steps of the path are carried
out, and characters that may not stand for themselves are escaped. -/
def read? (s : String) : Option Address := do
  let (scheme, rest) ← cutScheme? (tidy s)
  let kind := SchemeKind.ofScheme scheme
  let (cs, tail) := Text.cutBefore (fun c => c = '?' || c = '#') rest
  let (query, fragment) := Text.cutBefore (· = '#') tail
  let front ← readFront? kind scheme cs tail.isEmpty
  return {
    scheme
    authority := front.authority
    path := front.path
    query := (after? '?' query).map (escape (queryReserved kind))
    fragment := (after? '#' fragment).map (escape fragmentReserved) }

end Address

end ChainCrawl.Web
