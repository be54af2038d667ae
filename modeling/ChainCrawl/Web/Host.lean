import ChainCrawl.Web.DomainName
import ChainCrawl.Web.Escape
import ChainCrawl.Web.Ipv4
import ChainCrawl.Web.Ipv6

namespace ChainCrawl.Web

/-- A host. -/
inductive Host where
  /-- A name; the empty name is no host at all. -/
  | name (text : String)
  | ipv4 (address : Ipv4)
  | ipv6 (address : Ipv6)
  deriving DecidableEq

namespace Host

def text : Host → String
  | name text => text
  | ipv4 address => address.text
  | ipv6 address => "[" ++ address.text ++ "]"

def isEmpty (h : Host) : Bool :=
  h = .name ""

def bracketed? (cs : List Char) : Option Host := do
  guard (cs.getLast? = some ']')
  return .ipv6 (← Ipv6.read? (cs.drop 1).dropLast)

/-- Reads a host of a network with names: bytes may be escaped, and a name that ends with a number
is a network address. -/
def readName? (cs : List Char) : Option Host :=
  if cs.head? = some '[' then bracketed? cs
  else do
    let name ← asciiName? (← unescape? cs).toList
    guard (!name.isEmpty)
    if Ipv4.isMeant name then return .ipv4 (← Ipv4.read? name)
    else return .name (String.ofList name)

/-- Reads a host that is kept as it is written. -/
def readVerbatim? (cs : List Char) : Option Host :=
  if cs.head? = some '[' then bracketed? cs
  else do
    guard (!cs.any "\x00\t\n\r #/:<>?@[\\]^|".toList.contains)
    return .name (escape [] cs)

end Host

end ChainCrawl.Web
