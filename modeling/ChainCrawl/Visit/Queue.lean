import ChainCrawl.Inquiry.Member
import ChainCrawl.Word
import ChainCrawl.Work.Request

namespace ChainCrawl

/-- How the queue of identities that were asked for is gone through. Its members stand for inquiries
and are scored by the second of their latest visit. A member leaves the queue when its visit is too
old, or when it can never be served: it cannot be read, or no adapter takes it. -/
structure VisitQueue where
  /-- The members that are read at a time. -/
  pageSize : Nat
  /-- The seconds for which a visit counts. -/
  retentionSecs : Nat
  deriving DecidableEq

/-- What went wrong while the queue was gone through. -/
inductive PassFailure where
  | member (member : String) (cause : Failure)
  | scan (cause : Failure)
  deriving DecidableEq

def PassFailure.text : PassFailure → String
  | member name cause => s!"member {name}: {cause.text}"
  | scan cause => s!"scan failed: {cause.text}"

/-- What became of the members that were visited. -/
structure PassReport where
  visited : Nat
  errors : List PassFailure
  deriving DecidableEq

namespace PassReport

def text (r : PassReport) : String :=
  s!"{r.errors.length} of {r.visited} recrawl members failed" ++
    String.join (r.errors.map fun e => "; " ++ e.text)

def append (r s : PassReport) : PassReport :=
  ⟨r.visited + s.visited, r.errors ++ s.errors⟩

end PassReport

/-- The score below which a visit is older than the retention at the instant `now`. -/
def oldestKept (now : Time.Instant) (retentionSecs : Nat) : Int :=
  max (now.seconds - min (retentionSecs : Int) Word.maxInt64) Word.minInt64

namespace VisitQueue

/-- A queue that reads at least one member at a time. -/
def of (pageSize : UInt32) (retentionSecs : UInt64) : VisitQueue :=
  ⟨max pageSize.toNat 1, retentionSecs.toNat⟩

/-- Records a visit at an instant; a later visit of the same member counts. -/
def touchAt (inquiry : Inquiry) (instant : Time.Instant) : Crawl Unit :=
  Work.fromTable (Work.call (.upsertVisit inquiry.member instant.seconds))

def touch (inquiry : Inquiry) : Crawl Unit := do
  touchAt inquiry (← Work.ask .now)

def lastVisit (inquiry : Inquiry) : Crawl (Option Int) :=
  Work.fromTable (Work.call (.visitScore inquiry.member))

def size : Crawl Nat :=
  Work.fromTable (Work.call .visitCount)

def dropOld (now : Time.Instant) (retentionSecs : Nat) : Crawl Nat :=
  Work.fromTable (Work.call (.dropVisitsBelow (oldestKept now retentionSecs)))

/-- Removes a member that can never be served. -/
def dropMember (member : String) : Work Unit := do
  match ← Work.call (.removeVisit member) with
  | .ok _ => return
  | .error e =>
    Work.report .warn "Failed to remove recrawl member" [("member", member), ("error", e.text)]

/-- No later pass can serve a member that failed like this. -/
def isPermanent : Failure → Bool
  | .unserved _ _ => true
  | _ => false

def visit (f : Inquiry → Crawl Unit) (member : String) : Work (Option PassFailure) := do
  match Inquiry.ofMember member with
  | .error e =>
    dropMember member
    return some (.member member e)
  | .ok inquiry =>
    match ← (f inquiry).run with
    | .ok () => return none
    | .error e =>
      if isPermanent e then dropMember member
      return some (.member member e)

def visitAll (f : Inquiry → Crawl Unit) : List (String × Int) → Work (List PassFailure)
  | [] => return []
  | (member, _) :: rest => do
    let failure ← visit f member
    return failure.toList ++ (← visitAll f rest)

/-- Visits the members after a given one, reading at most `pages` pages; none if there are more. A
page that is not full is the last one. -/
def passFrom (q : VisitQueue) (least : Int) (f : Inquiry → Crawl Unit) :
    (pages : Nat) → (after : Option String) → Work (Option PassReport)
  | 0, _ => return none
  | pages + 1, after => do
    match ← Work.call (.visitsAfter after least q.pageSize) with
    | .error e => return some ⟨0, [.scan e.toFailure]⟩
    | .ok page =>
      let here : PassReport := ⟨page.length, ← visitAll f page⟩
      match page.getLast? with
      | some (last, _) =>
        if page.length < q.pageSize then return some here
        else return (← passFrom q least f pages (some last)).map here.append
      | none => return some here

/-- Visits every member whose visit still counts, in the order of the members. A member that fails
stops no other. -/
def pass (q : VisitQueue) (pages : Nat) (now : Time.Instant) (f : Inquiry → Crawl Unit) :
    Work (Option PassReport) :=
  q.passFrom (oldestKept now q.retentionSecs) f pages none

end VisitQueue

end ChainCrawl
