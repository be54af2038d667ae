import ChainCrawl.Poller.Words

namespace ChainCrawl

namespace CycleEnd

/-- The next cycle follows without a pause. -/
def goesOn : CycleEnd → Bool
  | advanced _ _ false => true
  | _ => false

end CycleEnd

namespace Poller

variable (loop : Poller)

def reportFields : List (String × String) :=
  [("source", loop.source.key), ("network", loop.source.network.name)]

def reportOutcome : CycleEnd → Work Unit
  | .advanced window records caughtUp =>
    Work.report .info "Cycle advanced" (loop.reportFields ++
      [("from", toString window.first), ("to", toString window.last),
        ("records", toString records), ("caught_up", toString caughtUp)])
  | .waiting safeHeight needed =>
    Work.report .info "Waiting for confirmations" (loop.reportFields ++
      [("safe_height", toString safeHeight), ("needed", toString needed)])
  | .failed cause =>
    let fields := loop.reportFields ++ [("error", cause.text)]
    if cause.isRetriable then Work.report .warn "Cycle failed, retrying next tick" fields
    else Work.report .error "Cycle failed" fields
  | .misconfigured => return

/-- The pause after a cycle, in milliseconds. -/
def pauseAfter (outcome : CycleEnd) : Nat :=
  if outcome.goesOn then 0 else loop.source.pollMillis

/-- At most `rounds` cycles, one after the other, until the stop switch is set or given up. A pause
follows a cycle that has caught up with the confirmed height or could not go on. The switch is
looked at between cycles and during pauses only, so a cycle that has begun runs to its end, unless a
height does not fit its word. -/
def rounds : (rounds : Nat) → Work LoopEnd
  | 0 => return .running
  | n + 1 => do
    let stopping : Bool ← Work.call .stopRequested
    if stopping then return .stopped
    let some outcome ← loop.cycleInWords | return .overflowed
    if outcome = .misconfigured then return .misconfigured
    loop.reportOutcome outcome
    match loop.pauseAfter outcome with
    | 0 =>
      Work.call .yieldTurn
      rounds n
    | millis =>
      match ← Work.call (.pause millis) with
      | .abandoned => return .stopped
      | .elapsed | .switched => rounds n

/-- The loop, followed for at most `limit` cycles. -/
def run (limit : Nat) : Work LoopEnd := do
  Work.report .info "Polling loop started"
    (loop.reportFields ++ [("target", loop.source.target)])
  let ending ← loop.rounds limit
  if ending = .stopped then Work.report .info "Polling loop stopped" loop.reportFields
  return ending

end Poller

end ChainCrawl
