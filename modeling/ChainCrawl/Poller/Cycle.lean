import ChainCrawl.Cursor.Stride
import ChainCrawl.Delivery.Router
import ChainCrawl.Finality

namespace ChainCrawl

/-- What a cycle came to. -/
inductive CycleEnd where
  /-- The window was stored, and the cursor stands after it. -/
  | advanced (window : Window) (records : Nat) (caughtUp : Bool)
  /-- The window would end above the confirmed height. -/
  | waiting (safeHeight needed : Int)
  /-- Nothing moved; the next cycle tries the same window again. -/
  | failed (cause : Failure)
  /-- The source's steps are crossed, so it has no cursor. -/
  | misconfigured
  deriving DecidableEq

/-- What a cycle is to do once it has looked at the heights. -/
inductive Intent where
  /-- Deliver a window, which lies under the confirmed height. -/
  | deliver (c : Cursor) (safeHeight : Int) (window : Window)
  /-- Wait with the smallest step, since the window would end above the confirmed height. -/
  | wait (c : Cursor) (safeHeight needed : Int)
  /-- Nothing: the source has no cursor. -/
  | stop
  deriving DecidableEq

/-- A source with the way to its adapter. -/
structure Poller where
  source : Source
  finality : Finality
  router : Router

namespace Poller

def of (source : Source) (router : Router) : Poller :=
  ⟨source, .of source.network source.confirmations, router⟩

variable (loop : Poller)

def stride : Stride :=
  .of loop.source.step

def inquiryFor (window : Window) : Inquiry :=
  { Inquiry.of loop.source.target loop.source.network with window := some window }

/-- The cursor to start from; none if the source's steps are crossed. -/
def startCursor (stored : Option Cursor) : Option Cursor :=
  match stored with
  | some c => c.adjust? loop.source
  | none => some (.ofSource loop.source)

/-- Saves the cursor with the smallest step; a failure is reported only. -/
def saveShrunk (c : Cursor) : Work Unit := do
  match ← Work.call (.saveCursor c.shrunk) with
  | .ok () => return
  | .error e =>
    Work.report .warn "Failed to persist shrunken step"
      [("source", loop.source.key), ("network", loop.source.network.name), ("error", e.text)]

/-- Fails, after shrinking the step where the cause asks for it. -/
def giveUp {α : Type} (c : Cursor) (cause : Failure) : Crawl α := do
  if cause.shrinksWindow then loop.saveShrunk c
  throw cause

def confirmedHeight (c : Cursor) : Crawl Int := do
  match loop.finality.ofAnswer (← Work.ask (.headHeight loop.finality.network)) with
  | .ok height => return height
  | .error cause => loop.giveUp c cause

def saveCursor (c : Cursor) : Crawl Unit :=
  Work.fromTable (Work.call (.saveCursor c))

/-- Delivers a window under a confirmed height and moves the cursor after it. -/
def advance (c : Cursor) (safeHeight : Int) (window : Window) : Crawl CycleEnd := do
  match ← ExceptT.lift (loop.router.deliver (loop.inquiryFor window)).run with
  | .error cause => loop.giveUp c cause
  | .ok delivery =>
    let moved := loop.stride.past c window
    saveCursor moved
    return .advanced window delivery.records.length
      (safeHeight < moved.height + moved.step)

/-- What to do from a cursor: plans a window under the confirmed height, with one more look after a
pause. -/
def planFrom (c : Cursor) : Crawl Intent := do
  let height ← loop.confirmedHeight c
  match c.plan height with
  | .ready window => return .deliver c height window
  | .early _ _ =>
    Work.ask (.sleep c.sleepMillis)
    let height ← loop.confirmedHeight c
    match c.plan height with
    | .ready window => return .deliver c height window
    | .early safeHeight needed => return .wait c safeHeight needed

def intent : Crawl Intent := do
  let stored ← Work.fromTable
    (Work.call (.loadCursor loop.source.key loop.source.network))
  match loop.startCursor stored with
  | some c => loop.planFrom c
  | none => return .stop

def carryOut : Intent → Crawl CycleEnd
  | .deliver c safeHeight window => loop.advance c safeHeight window
  | .wait c safeHeight needed => do
    saveCursor c.shrunk
    return .waiting safeHeight needed
  | .stop => return .misconfigured

def attempt : Crawl CycleEnd := do
  loop.carryOut (← loop.intent)

/-- One cycle. It reads the cursor and the confirmed height, plans a window, delivers it, and moves
the cursor only after the window's records have been stored. A window that cannot be filled is
looked at once more after a pause; then the step shrinks. -/
def cycle : Work CycleEnd := do
  match ← loop.attempt.run with
  | .ok outcome => return outcome
  | .error cause => return .failed cause

end Poller

end ChainCrawl
