import ChainCrawl.Delivery.Router

namespace ChainCrawl

/-- A queue, the way to the adapters of its members, and the pause between two passes. -/
structure Sweeper where
  queue : VisitQueue
  router : Router
  intervalSecs : Nat

namespace Sweeper

/-- Drops old visits. A failure is reported only: the pass does not see these members anyway. -/
def expire (w : Sweeper) (now : Time.Instant) : Work Unit := do
  match ← (VisitQueue.dropOld now w.queue.retentionSecs).run with
  | .ok 0 => return
  | .ok removed =>
    Work.report .info "Expired recrawl members" [("removed", toString removed)]
  | .error e =>
    Work.report .warn "Failed to expire recrawl members" [("error", e.text)]

/-- Drops old visits, then delivers for every member that is left; none if the members do not fit
the given number of pages. -/
def sweep (w : Sweeper) (pages : Nat) (now : Time.Instant) :
    Work (Option PassReport) := do
  w.expire now
  w.queue.pass pages now fun inquiry => do
    let _ ← w.router.deliver inquiry

def reportPass (r : PassReport) : Work Unit :=
  if r.errors.isEmpty then
    Work.report .info "Recrawl pass complete" [("visited", toString r.visited)]
  else
    Work.report .warn "Recrawl pass finished with errors"
      [("visited", toString r.visited), ("failed", toString r.errors.length), ("error", r.text)]

/-- At most `rounds` passes, each of at most `pages` pages, until the stop switch is set or given
up. -/
def rounds (w : Sweeper) (pages : Nat) : (rounds : Nat) → Work LoopEnd
  | 0 => return .running
  | n + 1 => do
    let stopping : Bool ← Work.call .stopRequested
    if stopping then return .stopped
    match ← w.sweep pages (← Work.call .now) with
    | none => return .running
    | some report =>
      reportPass report
      match ← Work.call (.pause (w.intervalSecs * 1000)) with
      | .abandoned => return .stopped
      | .elapsed | .switched => rounds w pages n

/-- The loop, followed for at most `limit` rounds. -/
def run (w : Sweeper) (pages limit : Nat) : Work LoopEnd := do
  Work.report .info "Recrawl worker started" [("interval_secs", toString w.intervalSecs)]
  let ending ← w.rounds pages limit
  if ending = .stopped then Work.report .info "Recrawl worker stopped" []
  return ending

end Sweeper

end ChainCrawl
