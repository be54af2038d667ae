import ChainCrawl.Failure
import ChainCrawl.Inquiry.Basic
import ChainCrawl.Json.Access
import ChainCrawl.Shape.Json

namespace ChainCrawl

open ChainCrawl.Json (Document)

def Window.fields : Shape.Fields Document Window :=
  Window.mk <$> .field "from" Shape.int64 <*> .field "to" Shape.int64

namespace Inquiry

/-- The fields of a member, in the order in which they are written. -/
def memberFields (p : Inquiry) : List (String × Json) :=
  [("identity", .str p.identity), ("network", .str p.network.name)] ++
    Json.optionalField "platform" (p.platform.map fun x => .str x.name) ++
    Json.optionalField "limit" (p.limit.map fun x => .int x.toNat) ++
    Json.optionalField "since" (p.since.map fun x => .str x.text)

/-- The member that stands for an inquiry in the queue of visits: its JSON text without the window,
so that two inquiries which differ in nothing else share one member. -/
def member (p : Inquiry) : String :=
  (Json.obj p.memberFields).render

def fields : Shape.Fields Document Inquiry :=
  Inquiry.mk <$> .field "identity" Shape.text
    <*> .field "network" (Shape.oneCase Network.cases)
    <*> .fieldD "platform" (Shape.orNull (Shape.oneCase Platform.cases)) none
    <*> .fieldD "limit" (Shape.orNull Shape.uint32) none
    <*> .fieldD "since" (Shape.orNull Shape.instant) none
    <*> .fieldD "window" (Shape.orNull (Shape.record .text "BlockWindow" Window.fields)) none

def ofDocument : Document → Shape.Decoded Inquiry :=
  Shape.record .text "WorkParam" fields

def ofMember (member : String) : Fallible Inquiry :=
  match Shape.fromText ofDocument member with
  | .ok p => .ok p
  | .error e => .error (.decode e.message)

end Inquiry

end ChainCrawl
