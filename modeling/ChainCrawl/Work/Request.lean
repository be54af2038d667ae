import ChainCrawl.Adapter.Table
import ChainCrawl.Cursor.Basic
import ChainCrawl.Inquiry.Basic
import ChainCrawl.Log
import ChainCrawl.Proc.Basic
import ChainCrawl.Record.Basic
import ChainCrawl.Table.Failure

namespace ChainCrawl

/-- How a pause between two rounds of a loop ends. -/
inductive PauseEnd where
  /-- Its time has passed. -/
  | elapsed
  /-- The stop switch has been set, to either side. -/
  | switched
  /-- Nobody is left to set the stop switch. -/
  | abandoned
  deriving DecidableEq

/-- How a loop ended. -/
inductive LoopEnd where
  | stopped
  /-- The loop's settings admit no round. -/
  | misconfigured
  /-- A height did not fit its word. -/
  | overflowed
  /-- The loop was still running after as many rounds as it was followed for. -/
  | running
  deriving DecidableEq

/-- A request to the surroundings: to the tables, the adapters, the network for the height of its
newest block, the clocks, or the switch that stops a loop. -/
inductive WorkRequest where
  | loadCursor (key : String) (network : Network)
  | saveCursor (cursor : Cursor)
  | headHeight (network : Network)
  | fetch (adapter : AdapterRef) (inquiry : Inquiry)
  | recordOf (adapter : AdapterRef) (inquiry : Inquiry) (event : Event)
  | profile (adapter : AdapterRef) (inquiry : Inquiry)
  | addRecords (batch : List ActivityRecord)
  | upsertVisit (member : String) (score : Int)
  | visitsAfter (after : Option String) (least : Int) (limit : Nat)
  | dropVisitsBelow (least : Int)
  | removeVisit (member : String)
  | visitScore (member : String)
  | visitCount
  /-- The wall clock. -/
  | now
  /-- A clock in milliseconds that never goes back. -/
  | ticks
  | sleep (millis : Nat)
  | log (entry : LogEntry)
  /-- The stop switch. -/
  | stopRequested
  /-- A pause that the stop switch ends early. -/
  | pause (millis : Nat)
  /-- Lets others run. -/
  | yieldTurn

/-- What answers each request. -/
abbrev WorkRequest.Answer : WorkRequest → Type
  | loadCursor _ _ => Except TableFailure (Option Cursor)
  | saveCursor _ => Except TableFailure Unit
  | headHeight _ => Fallible Int
  | fetch _ _ => Fallible (List Event)
  | recordOf _ _ _ => Fallible ActivityRecord
  | profile _ _ => Fallible (Option Profile)
  | addRecords _ => Except TableFailure Unit
  | upsertVisit _ _ => Except TableFailure Unit
  | visitsAfter _ _ _ => Except TableFailure (List (String × Int))
  | dropVisitsBelow _ => Except TableFailure Nat
  | removeVisit _ => Except TableFailure Bool
  | visitScore _ => Except TableFailure (Option Int)
  | visitCount => Except TableFailure Nat
  | now => Time.Instant
  | ticks => Nat
  | sleep _ => Unit
  | log _ => Unit
  | stopRequested => Bool
  | pause _ => PauseEnd
  | yieldTurn => Unit

/-- The requests of the loops, with their answers. -/
abbrev surroundings : Signature where
  Request := WorkRequest
  Answer := WorkRequest.Answer

/-- A procedure of a loop. -/
abbrev Work := Proc surroundings

/-- A procedure of a loop that can fail. -/
abbrev Crawl := ExceptT Failure Work

namespace Work

def call (r : WorkRequest) : Work r.Answer :=
  Proc.request (S := surroundings) r

def ask (r : WorkRequest) : Crawl r.Answer :=
  ExceptT.lift (call r)

def report (level : LogLevel) (message : String) (fields : List (String × String)) : Work Unit :=
  call (.log ⟨level, message, fields⟩)

def fromTable {α : Type} (p : Work (Except TableFailure α)) : Crawl α :=
  ExceptT.mk do return (← p).mapError TableFailure.toFailure

end Work

end ChainCrawl
