import ChainCrawl.Proofs.Delivery.Router
import ChainCrawl.Proofs.Visit.Paging
import ChainCrawl.Visit.Sweeper

namespace ChainCrawl.Sweeper

open Proc

variable {w : Sweeper} {now : Time.Instant} {exchanges : List (Exchange surroundings)} {t : Tables}

/-- What a sweep does with the inquiry of each member. -/
def serve (w : Sweeper) (p : Inquiry) : Crawl Unit := do
  let _ ← w.router.deliver p

theorem ends_serve_iff {p : Inquiry} {result : Fallible Unit} :
    (w.serve p).run.Ends exchanges result ↔
      ∃ d, (w.router.deliver p).run.Ends exchanges d ∧ result = d.map fun _ => () :=
  ends_run_bind_pure_iff

theorem ends_serve_ok_iff {p : Inquiry} :
    (w.serve p).run.Ends exchanges (.ok ()) ↔
      ∃ d, (w.router.deliver p).run.Ends exchanges (.ok d) := by
  rw [ends_serve_iff]
  constructor
  · rintro ⟨d | d, h, heq⟩
    · cases heq
    · exact ⟨d, h⟩
  · rintro ⟨d, h⟩
    exact ⟨.ok d, h, rfl⟩

theorem ends_serve_error_iff {p : Inquiry} {e : Failure} :
    (w.serve p).run.Ends exchanges (.error e) ↔
      (w.router.deliver p).run.Ends exchanges (.error e) := by
  rw [ends_serve_iff]
  constructor
  · rintro ⟨d | d, h, heq⟩
    · cases heq
      exact h
    · cases heq
  · intro h
    exact ⟨.error e, h, rfl⟩

theorem spares_serve (w : Sweeper) : VisitQueue.Spares w.serve := by
  intro p exchanges result h
  obtain ⟨d, hdeliver, -⟩ := ends_serve_iff.1 h
  exact Router.sparesVisits_of_ends_deliver hdeliver

/-- The score below which a sweep drops visits, and which its pass reads from. -/
def least (w : Sweeper) (now : Time.Instant) : Int :=
  oldestKept now w.queue.retentionSecs

/-- The exchanges by which the old visits are dropped, after what the call is answered. -/
def expiring (w : Sweeper) (now : Time.Instant) (answer : Except TableFailure Nat) :
    List (Exchange surroundings) :=
  ⟨.dropVisitsBelow (w.least now), answer⟩ ::
    match answer with
    | .ok 0 => []
    | .ok removed =>
      [⟨.log ⟨.info, "Expired recrawl members", [("removed", toString removed)]⟩, ()⟩]
    | .error e =>
      [⟨.log ⟨.warn, "Failed to expire recrawl members", [("error", e.toFailure.text)]⟩, ()⟩]

theorem ends_expire_iff {u : Unit} :
    (w.expire now).Ends exchanges u ↔ ∃ answer, exchanges = w.expiring now answer := by
  refine Iff.trans ends_bind_iff ?_
  constructor
  · rintro ⟨result, first, rest, rfl, hfirst, hrest⟩
    obtain ⟨answer, hcall, rfl⟩ := Work.ends_fromTable_iff.1 hfirst
    obtain rfl := Work.ends_call_iff.1 hcall
    refine ⟨answer, ?_⟩
    cases answer with
    | error e =>
      obtain rfl := Work.ends_report_iff.1 hrest
      rfl
    | ok removed =>
      cases removed with
      | zero =>
        obtain ⟨rfl, -⟩ := ends_done_iff.1 hrest
        rfl
      | succ n =>
        obtain rfl := Work.ends_report_iff.1 hrest
        rfl
  · rintro ⟨answer, rfl⟩
    refine ⟨answer.mapError TableFailure.toFailure, [_], _, rfl,
      Work.ends_fromTable_iff.2 ⟨answer, Work.ends_call_iff.2 rfl, rfl⟩, ?_⟩
    cases answer with
    | error e => exact Work.ends_report_iff.2 rfl
    | ok removed =>
      cases removed with
      | zero => exact .nil _
      | succ n => exact Work.ends_report_iff.2 rfl

/-- A sweep is a call that drops the old visits, and then a pass that does not depend on what came
of the call. -/
theorem ends_sweep_iff {pages : Nat} {report : Option PassReport} :
    (w.sweep pages now).Ends exchanges report ↔
      ∃ answer passing, exchanges = w.expiring now answer ++ passing ∧
        VisitQueue.Course w.queue (w.least now) w.serve pages none passing report := by
  refine Iff.trans ends_bind_iff ?_
  constructor
  · rintro ⟨u, first, passing, rfl, hexpire, hpass⟩
    obtain ⟨answer, rfl⟩ := ends_expire_iff.1 hexpire
    exact ⟨answer, passing, rfl, VisitQueue.ends_passFrom_iff.1 hpass⟩
  · rintro ⟨answer, passing, rfl, hcourse⟩
    exact ⟨(), _, passing, rfl, ends_expire_iff.2 ⟨answer, rfl⟩,
      VisitQueue.ends_passFrom_iff.2 hcourse⟩

/-- The call drops the old visits or fails, and nothing else changes. -/
theorem run_expiring (w : Sweeper) (now : Time.Instant) (t : Tables)
    (answer : Except TableFailure Nat) :
    t.run (w.expiring now answer) = t ∨ t.run (w.expiring now answer) = t.aged (w.least now) := by
  cases answer with
  | error e => exact .inl rfl
  | ok removed => cases removed <;> exact .inr rfl

theorem permits_expiring_iff {answer : Except TableFailure Nat} :
    t.Permits (w.expiring now answer) ↔ t.Allows ⟨.dropVisitsBelow (w.least now), answer⟩ := by
  cases answer with
  | error e => exact and_iff_left ⟨trivial, trivial⟩
  | ok removed =>
    cases removed with
    | zero => exact and_iff_left trivial
    | succ n => exact and_iff_left ⟨trivial, trivial⟩

section Passing

variable {pages : Nat} {after : Option String} {passing : List (Exchange surroundings)}
  {report : Option PassReport}

theorem run_expiring_append (t : Tables) (answer : Except TableFailure Nat)
    (h : VisitQueue.Course w.queue (w.least now) w.serve pages after passing report) :
    t.run (w.expiring now answer ++ passing) = t.run passing ∨
      t.run (w.expiring now answer ++ passing) = (t.run passing).aged (w.least now) := by
  rw [Tables.run_append]
  obtain heq | heq := run_expiring w now t answer <;> rw [heq]
  · exact .inl rfl
  · exact .inr (Tables.aged_run
      (h.requests w.spares_serve.addsNone VisitQueue.addsNone_of_isPassing) t _)

theorem records_run_expiring_append (t : Tables) (answer : Except TableFailure Nat)
    (h : VisitQueue.Course w.queue (w.least now) w.serve pages after passing report) :
    (t.run (w.expiring now answer ++ passing)).records = (t.run passing).records := by
  obtain heq | heq := run_expiring_append t answer h <;> rw [heq]
  rfl

theorem live_run_expiring_append (t : Tables) (answer : Except TableFailure Nat)
    (h : VisitQueue.Course w.queue (w.least now) w.serve pages after passing report) :
    (t.run (w.expiring now answer ++ passing)).visits.visits.filter (w.least now ≤ ·.2) =
      (t.run passing).visits.visits.filter (w.least now ≤ ·.2) := by
  obtain heq | heq := run_expiring_append t answer h <;> rw [heq]
  simp [Tables.aged, VisitTable.dropBelow, VisitTable.filter]

/-- A pass can go the same ways after any answer to the call before it. -/
theorem permits_expiring_append_iff {answer : Except TableFailure Nat}
    (h : VisitQueue.Course w.queue (w.least now) w.serve pages after passing report) :
    t.Permits (w.expiring now answer ++ passing) ↔
      t.Allows ⟨.dropVisitsBelow (w.least now), answer⟩ ∧ t.Permits passing := by
  rw [Tables.permits_append_iff, permits_expiring_iff]
  obtain heq | heq := run_expiring w now t answer <;> rw [heq]
  exact and_congr_right' (h.permits_aged_iff w.spares_serve)

end Passing

end ChainCrawl.Sweeper
