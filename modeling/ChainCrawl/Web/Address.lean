import ChainCrawl.Web.Host
import ChainCrawl.Web.Path

namespace ChainCrawl.Web

/-- Who is asked for, and by whom. -/
structure Authority where
  user : String
  /-- The password of the user; it is never empty. -/
  password : Option String
  host : Host
  /-- The port, where it is not the usual one of the scheme. -/
  port : Option Nat
  deriving DecidableEq

/-- An address on the web: a scheme, a host with whoever visits it, a path, a query and a fragment.
It is held in its normal form, so that its text can be requested as it is. -/
structure Address where
  scheme : String
  authority : Option Authority
  path : Path
  query : Option String
  fragment : Option String
  deriving DecidableEq

namespace Authority

def credentials (a : Authority) : String :=
  a.user ++ (a.password.map (":" ++ ·)).getD ""

def text (a : Authority) : String :=
  (if a.credentials = "" then "" else a.credentials ++ "@") ++ a.host.text
    ++ (a.port.map fun port => s!":{port}").getD ""

/-- The credentials can be told to a server: they are text, and one of them is there. -/
def hasReadableCredentials (a : Authority) : Bool :=
  match unescape? a.user.toList with
  | none => false
  | some user => user != "" || (a.password.bind fun p => unescape? p.toList).isSome

/-- The authority without credentials, which a server is told in another way if they can be. -/
def withoutCredentials (a : Authority) : Authority :=
  if a.hasReadableCredentials then { a with user := "", password := none } else a

end Authority

namespace Address

/-- The text of an address. A path that starts with two slashes is kept apart from an authority by a
step that stays. -/
def text (a : Address) : String :=
  let front := match a.authority with
    | some authority => "//" ++ authority.text
    | none => if "//".toList.isPrefixOf a.path.text.toList then "/." else ""
  a.scheme ++ ":" ++ front ++ a.path.text ++ (a.query.map ("?" ++ ·)).getD ""
    ++ (a.fragment.map ("#" ++ ·)).getD ""

def host? (a : Address) : Option Host :=
  (a.authority.map (·.host)).filter fun host => !host.isEmpty

/-- The address without credentials. -/
def withoutCredentials (a : Address) : Address :=
  { a with authority := a.authority.map Authority.withoutCredentials }

def withParams (a : Address) (params : List (String × String)) : Address :=
  { a with query := some (match a.query with
    | none | some "" => formQuery params
    | some q => q ++ "&" ++ formQuery params) }

def greatestLength : Nat := 65534

/-- A request can be sent to the address: it is on the web, not too long, and its host has no
character that a request may not hold. -/
def isRequestable (a : Address) : Bool :=
  (a.scheme = "http" || a.scheme = "https") && a.text.length ≤ greatestLength
    && (a.host?.map Host.text).all fun host =>
      !host.toList.any ['"', '\x60', '\x7b', '\x7d'].contains

end Address

end ChainCrawl.Web
