import ChainCrawl.Poller.Cycle

namespace ChainCrawl

/-- A procedure of a loop that can fail, and breaks off where a height does not fit its word. -/
abbrev WordCrawl := ExceptT Failure (OptionT Work)

namespace WordCrawl

variable {α : Type}

/-- A procedure that reckons with no heights. -/
def spared (p : Crawl α) : WordCrawl α :=
  ExceptT.mk (OptionT.lift p.run)

/-- Goes on with what has been reckoned, if it fits its word. -/
def fitting (reckoned : Option α) : WordCrawl α :=
  ExceptT.lift (OptionT.mk (pure reckoned))

end WordCrawl

namespace Poller

open WordCrawl (spared fitting)

variable (loop : Poller)

def confirmedHeightInWords (c : Cursor) : WordCrawl Int := do
  match ← spared (Work.ask (.headHeight loop.finality.network)) with
  | .ok head => fitting (loop.finality.underInWord? head)
  | .error e => spared (loop.giveUp c (loop.finality.failure e))

def planFromInWords (c : Cursor) : WordCrawl Intent := do
  let height ← loop.confirmedHeightInWords c
  match ← fitting (c.planInWord? height) with
  | .ready window => return .deliver c height window
  | .early _ _ =>
    spared (Work.ask (.sleep c.sleepMillis))
    let height ← loop.confirmedHeightInWords c
    match ← fitting (c.planInWord? height) with
    | .ready window => return .deliver c height window
    | .early safeHeight needed => return .wait c safeHeight needed

def intentInWords : WordCrawl Intent := do
  let stored ← spared (Work.fromTable
    (Work.call (.loadCursor loop.source.key loop.source.network)))
  match loop.startCursor stored with
  | some c => loop.planFromInWords c
  | none => return .stop

/-- Delivers a window and moves the cursor after it. The cursor has been saved by the time it turns
out whether the end of the next window fits its word. -/
def advanceInWords (c : Cursor) (safeHeight : Int) (window : Window) : WordCrawl CycleEnd := do
  match ← spared (ExceptT.lift (loop.router.deliver (loop.inquiryFor window)).run) with
  | .error cause => spared (loop.giveUp c cause)
  | .ok delivery =>
    let moved ← fitting (loop.stride.pastInWord? c window)
    spared (saveCursor moved)
    let needed ← fitting moved.lastInWord?
    return .advanced window delivery.records.length (safeHeight < needed)

def carryOutInWords : Intent → WordCrawl CycleEnd
  | .deliver c safeHeight window => loop.advanceInWords c safeHeight window
  | intent => spared (loop.carryOut intent)

def attemptInWords : WordCrawl CycleEnd := do
  loop.carryOutInWords (← loop.intentInWords)

/-- One cycle with its heights in words of 64 bits. Where a sum or a difference of heights does not
fit its word, the cycle breaks off on the spot: it does not fail then, makes no further request and
has no outcome. -/
def cycleInWords : Work (Option CycleEnd) := do
  match ← loop.attemptInWords.run.run with
  | some (.ok outcome) => return some outcome
  | some (.error cause) => return some (.failed cause)
  | none => return none

end Poller

end ChainCrawl
