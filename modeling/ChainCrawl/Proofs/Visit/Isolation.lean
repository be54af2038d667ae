import ChainCrawl.Proofs.Delivery.Answers
import ChainCrawl.Proofs.Visit.Sweep

namespace ChainCrawl

open Proc

namespace AdapterAnswers

variable {s : AdapterAnswers} {router : Router} {exchanges : List (Exchange surroundings)}

/-- What a member comes to where the records take every batch. -/
def outcome (s : AdapterAnswers) (router : Router) (member : String) : Fallible Delivery := do
  let p ← Inquiry.ofMember member
  s.deliveryOf router p

theorem outcome_of_unread {member : String} {e : Failure}
    (h : Inquiry.ofMember member = .error e) : s.outcome router member = .error e := by
  rw [outcome, h]
  rfl

theorem outcome_of_read {member : String} {p : Inquiry} (h : Inquiry.ofMember member = .ok p) :
    s.outcome router member = s.deliveryOf router p := by
  rw [outcome, h]
  rfl

theorem exists_answer (s : AdapterAnswers) (t : Tables) (r : WorkRequest) :
    ∃ a : r.Answer, t.Allows ⟨r, a⟩ ∧ s.Gives ⟨r, a⟩ ∧ ¬ FailsToRead ⟨r, a⟩ := by
  cases r with
  | loadCursor key network => exact ⟨.ok (t.cursors.find? key network), rfl, trivial, id⟩
  | visitsAfter after least limit =>
    exact ⟨.ok (t.visits.membersAfter after least limit), rfl, trivial, id⟩
  | dropVisitsBelow least => exact ⟨.ok (t.visits.dropBelow least).1, rfl, trivial, id⟩
  | removeVisit member => exact ⟨.ok (t.visits.erase member).1, rfl, trivial, id⟩
  | visitScore member => exact ⟨.ok (t.visits.scoreOf? member), rfl, trivial, id⟩
  | visitCount => exact ⟨.ok t.visits.size, rfl, trivial, id⟩
  | fetch adapter p => exact ⟨s.fetch adapter p, trivial, rfl, id⟩
  | recordOf adapter p event => exact ⟨s.recordOf adapter p event, trivial, rfl, id⟩
  | saveCursor | addRecords | upsertVisit => exact ⟨.ok (), trivial, trivial, id⟩
  | headHeight | profile => exact ⟨.error (.unavailable ""), trivial, trivial, id⟩
  | now => exact ⟨(default : Time.Instant), trivial, trivial, id⟩
  | ticks => exact ⟨(0 : Nat), trivial, trivial, id⟩
  | sleep | log | yieldTurn => exact ⟨(), trivial, trivial, id⟩
  | stopRequested => exact ⟨true, trivial, trivial, id⟩
  | pause => exact ⟨PauseEnd.elapsed, trivial, trivial, id⟩

theorem exists_ends {α : Type} (s : AdapterAnswers) (p : Work α) (t : Tables) :
    ∃ exchanges a, p.Ends exchanges a ∧ t.Permits exchanges ∧
      ∀ x ∈ exchanges, s.Gives x ∧ ¬ FailsToRead x :=
  Work.exists_permitted s.exists_answer p t

end AdapterAnswers

/-- What became of a member that was visited. -/
structure Fate where
  member : String
  result : Fallible Delivery

namespace Fate

/-- The failure that is reported of the member. -/
def failure? (fate : Fate) : Option PassFailure :=
  match fate.result with
  | .ok _ => none
  | .error e => some (.member fate.member e)

/-- The inquiry of the member, if it was served. -/
def served? (fate : Fate) : Option Inquiry :=
  match fate.result, Inquiry.ofMember fate.member with
  | .ok _, .ok p => some p
  | _, _ => none

/-- The member came to what the answers make of it, or the records refused its batch. -/
def Follows (fate : Fate) (s : AdapterAnswers) (router : Router)
    (exchanges : List (Exchange surroundings)) : Prop :=
  fate.result = s.outcome router fate.member ∨
    ∃ (d : Delivery) (e : TableFailure), s.outcome router fate.member = .ok d ∧
      ⟨.addRecords d.records, .error e⟩ ∈ exchanges ∧ fate.result = .error e.toFailure

variable {s : AdapterAnswers} {router : Router} {fate : Fate}
  {exchanges more : List (Exchange surroundings)}

theorem Follows.mono (h : fate.Follows s router exchanges) (hsub : exchanges ⊆ more) :
    fate.Follows s router more := by
  obtain h | ⟨d, e, hd, hrefused, h⟩ := h
  · exact .inl h
  · exact .inr ⟨d, e, hd, hsub hrefused, h⟩

theorem follows_of_ends_deliver {member : String} {p : Inquiry} {result : Fallible Delivery}
    (hread : Inquiry.ofMember member = .ok p) (h : (router.deliver p).run.Ends exchanges result)
    (hgives : ∀ x ∈ exchanges, s.Gives x) :
    (Fate.mk member result).Follows s router exchanges := by
  have houtcome : s.outcome router member = s.deliveryOf router p :=
    AdapterAnswers.outcome_of_read hread
  obtain rfl | ⟨d, e, hd, hrefused, rfl⟩ := AdapterAnswers.eq_deliveryOf_of_ends_deliver h hgives
  · exact .inl houtcome.symm
  · exact .inr ⟨d, e, houtcome.trans hd, hrefused, rfl⟩

end Fate

/-- The inquiries are delivered one after the other, and each delivery succeeds. -/
inductive InTurn (s : AdapterAnswers) (router : Router) :
    List Inquiry → List (Exchange surroundings) → Prop where
  | nil : InTurn s router [] []
  | cons {p : Inquiry} {rest : List Inquiry} {d : Delivery}
      {first more : List (Exchange surroundings)}
      (hfirst : (router.deliver p).run.Ends first (.ok d)) (hgives : ∀ x ∈ first, s.Gives x)
      (hrest : InTurn s router rest more) : InTurn s router (p :: rest) (first ++ more)

namespace InTurn

variable {s : AdapterAnswers} {router : Router} {inquiries : List Inquiry}
  {exchanges others : List (Exchange surroundings)}

/-- What the records hold after the deliveries is settled by what they held before. -/
theorem records_eq (h : InTurn s router inquiries exchanges)
    (hothers : InTurn s router inquiries others) {t t' : Tables} (ht : t.records = t'.records) :
    (t.run exchanges).records = (t'.run others).records := by
  induction h generalizing others t t' with
  | nil =>
    cases hothers
    exact ht
  | @cons p rest d first more hfirst hgives hrest ih =>
    cases hothers with
    | @cons _ _ d' first' more' hfirst' hgives' hrest' =>
      have hd := AdapterAnswers.deliveryOf_of_ends_deliver_ok hfirst hgives
      have hd' := AdapterAnswers.deliveryOf_of_ends_deliver_ok hfirst' hgives'
      obtain rfl : d = d' := Except.ok.inj (hd.symm.trans hd')
      rw [Tables.run_append, Tables.run_append]
      apply ih hrest'
      rw [Router.records_of_ends_deliver_ok hfirst, Router.records_of_ends_deliver_ok hfirst', ht]

end InTurn

namespace VisitQueue

variable {w : Sweeper} {s : AdapterAnswers} {exchanges : List (Exchange surroundings)}

theorem Removing.records_run {member : String} (h : Removing member exchanges) (t : Tables) :
    (t.run exchanges).records = t.records := by
  obtain heq | heq := h.run_eq t <;> rw [heq]

theorem Encounter.exists_fate {member : String} {failure : Option PassFailure}
    (h : Encounter w.serve member exchanges failure) (hgives : ∀ x ∈ exchanges, s.Gives x) :
    ∃ fate : Fate, fate.member = member ∧ fate.Follows s w.router exchanges ∧
      failure = fate.failure? ∧
      ((∃ p d, fate.served? = some p ∧ (w.router.deliver p).run.Ends exchanges (.ok d)) ∨
        fate.served? = none ∧ ∀ t : Tables, (t.run exchanges).records = t.records) := by
  cases h with
  | @unread e removing hread hremoving =>
    refine ⟨⟨member, .error e⟩, rfl, ?_, rfl, .inr ⟨rfl, hremoving.records_run⟩⟩
    exact .inl (AdapterAnswers.outcome_of_unread hread).symm
  | @served p serving hread hserving =>
    obtain ⟨d, hdeliver⟩ := Sweeper.ends_serve_ok_iff.1 hserving
    refine ⟨⟨member, .ok d⟩, rfl, Fate.follows_of_ends_deliver hread hdeliver hgives, rfl,
      .inl ⟨p, d, ?_, hdeliver⟩⟩
    simp only [Fate.served?, hread]
  | @failed p e serving hread hserving =>
    have hdeliver := Sweeper.ends_serve_error_iff.1 hserving
    exact ⟨⟨member, .error e⟩, rfl, Fate.follows_of_ends_deliver hread hdeliver hgives, rfl,
      .inr ⟨rfl, Router.records_of_ends_deliver_error hdeliver⟩⟩
  | @refused p e serving removing hread hserving hpermanent hremoving =>
    have hdeliver := Sweeper.ends_serve_error_iff.1 hserving
    have hfollows := Fate.follows_of_ends_deliver hread hdeliver
      fun x hx => hgives x (List.mem_append_left _ hx)
    refine ⟨⟨member, .error e⟩, rfl, hfollows.mono (List.subset_append_left _ _), rfl,
      .inr ⟨rfl, fun t => ?_⟩⟩
    rw [Tables.run_append, hremoving.records_run, Router.records_of_ends_deliver_error hdeliver]

/-- What a round does to the records is done by delivering for the members that are served. -/
theorem Round.exists_fates {page : List Visit} {failures : List PassFailure}
    (h : Round w.serve page exchanges failures) (hgives : ∀ x ∈ exchanges, s.Gives x) :
    ∃ fates : List Fate, fates.map (·.member) = page.map (·.1) ∧
      (∀ fate ∈ fates, fate.Follows s w.router exchanges) ∧
      failures = fates.filterMap Fate.failure? ∧
      ∃ deliveries, InTurn s w.router (fates.filterMap Fate.served?) deliveries ∧
        ∀ t : Tables, (t.run deliveries).records = (t.run exchanges).records := by
  induction h with
  | nil => exact ⟨[], rfl, by simp, rfl, [], .nil, fun t => rfl⟩
  | @cons v rest first more failure failures hfirst hrest ih =>
    obtain ⟨hgivesFirst, hgivesMore⟩ := List.forall_mem_append.1 hgives
    obtain ⟨fates, hmembers, hfollows, rfl, deliveries, hturn, hrecords⟩ := ih hgivesMore
    obtain ⟨fate, hmember, hfate, rfl, hserved⟩ := hfirst.exists_fate hgivesFirst
    have hall : ∀ x ∈ fate :: fates, x.Follows s w.router (first ++ more) := by
      intro x hx
      obtain rfl | hx := List.mem_cons.1 hx
      · exact hfate.mono (List.subset_append_left _ _)
      · exact (hfollows x hx).mono (List.subset_append_right _ _)
    refine ⟨fate :: fates, by rw [List.map_cons, List.map_cons, hmember, hmembers], hall, ?_, ?_⟩
    · cases hfailure : fate.failure? <;> simp [hfailure]
    obtain ⟨p, d, hp, hdeliver⟩ | ⟨hnone, hsame⟩ := hserved
    · refine ⟨first ++ deliveries, ?_, fun t => ?_⟩
      · rw [List.filterMap_cons_some hp]
        exact .cons hdeliver hgivesFirst hturn
      · rw [Tables.run_append, Tables.run_append, hrecords]
    · refine ⟨deliveries, ?_, fun t => ?_⟩
      · rwa [List.filterMap_cons_none hnone]
      · rw [Tables.run_append, ← hrecords]
        exact hturn.records_eq hturn (hsame t).symm

end VisitQueue

namespace Sweeper

variable {w : Sweeper} {s : AdapterAnswers} {t : Tables} {now : Time.Instant} {pages : Nat}

/-- A sweep that may read enough pages visits every live member, and each of them alone settles
what the sweep reports of it and adds to the records for it. -/
theorem exists_fates_of_ends_sweep {exchanges : List (Exchange surroundings)}
    {report : Option PassReport} (hsize : 0 < w.queue.pageSize)
    (hpages : t.visits.size < pages) (hends : (w.sweep pages now).Ends exchanges report)
    (hpermits : t.Permits exchanges) (hgives : ∀ x ∈ exchanges, s.Gives x ∧ ¬ FailsToRead x) :
    ∃ fates : List Fate,
      fates.map (·.member) = (t.visits.visits.filter (w.least now ≤ ·.2)).map (·.1) ∧
      (∀ fate ∈ fates, fate.Follows s w.router exchanges) ∧
      report = some ⟨fates.length, fates.filterMap Fate.failure?⟩ ∧
      ∃ deliveries, InTurn s w.router (fates.filterMap Fate.served?) deliveries ∧
        (t.run deliveries).records = (t.run exchanges).records := by
  obtain ⟨answer, passing, rfl, hcourse⟩ := ends_sweep_iff.1 hends
  obtain ⟨-, hpassing⟩ := (permits_expiring_append_iff hcourse).1 hpermits
  obtain ⟨-, hgivesPassing⟩ := List.forall_mem_append.1 hgives
  have hlive : (t.visits.liveAfter none (w.least now)).length < pages :=
    Nat.lt_of_le_of_lt (List.length_filter_le _ _) hpages
  obtain ⟨round, failures, hround, rfl, hsublist, hrun⟩ := hcourse.exists_round w.spares_serve hsize
    (fun x hx => (hgivesPassing x hx).2) hpassing hlive
  rw [VisitTable.liveAfter_none] at hround
  obtain ⟨fates, hmembers, hfollows, rfl, deliveries, hturn, hrecords⟩ :=
    hround.exists_fates fun x hx => (hgivesPassing x (hsublist.subset hx)).1
  refine ⟨fates, hmembers, fun fate hfate => (hfollows fate hfate).mono ?_, ?_, deliveries, hturn,
    ?_⟩
  · exact List.Subset.trans hsublist.subset (List.subset_append_right _ _)
  · have hlength := congrArg List.length hmembers
    rw [List.length_map, List.length_map] at hlength
    rw [VisitTable.liveAfter_none, hlength]
  · rw [records_run_expiring_append t answer hcourse, hrecords, hrun]

/-- Whatever came of dropping the old visits, the sweep could have gone on in the same way after any
other answer, and only old visits would be there or not. -/
theorem exists_passing_of_ends_sweep {exchanges : List (Exchange surroundings)}
    {report : Option PassReport} (hends : (w.sweep pages now).Ends exchanges report)
    (hpermits : t.Permits exchanges) :
    ∃ answer passing, exchanges = w.expiring now answer ++ passing ∧
      ∀ other, t.Allows ⟨.dropVisitsBelow (w.least now), other⟩ →
        (w.sweep pages now).Ends (w.expiring now other ++ passing) report ∧
        t.Permits (w.expiring now other ++ passing) ∧
        (t.run (w.expiring now other ++ passing)).records = (t.run exchanges).records ∧
        (t.run (w.expiring now other ++ passing)).visits.visits.filter (w.least now ≤ ·.2) =
          (t.run exchanges).visits.visits.filter (w.least now ≤ ·.2) := by
  obtain ⟨answer, passing, rfl, hcourse⟩ := ends_sweep_iff.1 hends
  obtain ⟨-, hpassing⟩ := (permits_expiring_append_iff hcourse).1 hpermits
  refine ⟨answer, passing, rfl, fun other hother => ?_⟩
  refine ⟨ends_sweep_iff.2 ⟨other, passing, rfl, hcourse⟩,
    (permits_expiring_append_iff hcourse).2 ⟨hother, hpassing⟩, ?_, ?_⟩
  · rw [records_run_expiring_append t answer hcourse, records_run_expiring_append t other hcourse]
  · rw [live_run_expiring_append t answer hcourse, live_run_expiring_append t other hcourse]

/-- After a sweep the records are those that the members which are served would give if they were
delivered alone, one after the other. A member that fails adds nothing and is reported; every other
live member comes to what its own inquiry is answered. What came of dropping the old visits makes
no difference to the pass, to its report or to the records, and none to the visits that are not
old. No premise on the members is needed, and none on the records taking a batch. -/
theorem records_of_sweep (s : AdapterAnswers) (router : Router) (t : Tables) (pageSize : UInt32)
    (retentionSecs : UInt64) (intervalSecs : Nat) (now : Time.Instant) {pages : Nat}
    (hpages : t.visits.size < pages) :
    let w : Sweeper := ⟨.of pageSize retentionSecs, router, intervalSecs⟩
    let least : Int :=
      max (now.seconds - min (retentionSecs.toNat : Int) Word.maxInt64) Word.minInt64
    (∃ exchanges report, (w.sweep pages now).Ends exchanges report ∧ t.Permits exchanges ∧
      ∀ x ∈ exchanges, s.Gives x ∧ ¬ FailsToRead x) ∧
    ∀ exchanges report, (w.sweep pages now).Ends exchanges report → t.Permits exchanges →
      ((∀ x ∈ exchanges, s.Gives x ∧ ¬ FailsToRead x) → ∃ fates : List Fate,
        fates.map (·.member) = (t.visits.visits.filter (least ≤ ·.2)).map (·.1) ∧
        (∀ fate ∈ fates, fate.Follows s router exchanges) ∧
        report = some ⟨fates.length, fates.filterMap Fate.failure?⟩ ∧
        (∃ deliveries, InTurn s router (fates.filterMap Fate.served?) deliveries) ∧
        ∀ deliveries, InTurn s router (fates.filterMap Fate.served?) deliveries →
          (t.run deliveries).records = (t.run exchanges).records) ∧
      ∃ answer passing, exchanges = w.expiring now answer ++ passing ∧
        ∀ other, t.Allows ⟨.dropVisitsBelow least, other⟩ →
          (w.sweep pages now).Ends (w.expiring now other ++ passing) report ∧
          t.Permits (w.expiring now other ++ passing) ∧
          (t.run (w.expiring now other ++ passing)).records = (t.run exchanges).records ∧
          (t.run (w.expiring now other ++ passing)).visits.visits.filter (least ≤ ·.2) =
            (t.run exchanges).visits.visits.filter (least ≤ ·.2) := by
  intro w least
  have hsize : 0 < w.queue.pageSize := Nat.le_max_right _ _
  refine ⟨?_, fun exchanges report hends hpermits => ⟨fun hgives => ?_, ?_⟩⟩
  · obtain ⟨exchanges, report, hends, hpermits, hgives⟩ := s.exists_ends (w.sweep pages now) t
    exact ⟨exchanges, report, hends, hpermits, hgives⟩
  · obtain ⟨fates, hmembers, hfollows, hreport, deliveries, hturn, hrecords⟩ :=
      exists_fates_of_ends_sweep hsize hpages hends hpermits hgives
    exact ⟨fates, hmembers, hfollows, hreport, ⟨deliveries, hturn⟩,
      fun others hothers => (hothers.records_eq hturn rfl).trans hrecords⟩
  · exact exists_passing_of_ends_sweep hends hpermits

def sampleInquiry : Inquiry where
  identity := "alice"
  network := .ethereum
  platform := none
  limit := none
  since := none
  window := none

/-- Every adapter finds one event, and makes the same record of it. -/
def sampleAnswers : AdapterAnswers where
  fetch _ _ := .ok [⟨"list", .null⟩]
  recordOf _ _ _ := .ok Router.sampleRecord

theorem inTurn_sample :
    InTurn sampleAnswers Router.sample [sampleInquiry]
      [⟨.fetch ⟨0, "sample"⟩ sampleInquiry, .ok [⟨"list", .null⟩]⟩,
        ⟨.recordOf ⟨0, "sample"⟩ sampleInquiry ⟨"list", .null⟩, .ok Router.sampleRecord⟩,
        ⟨.addRecords [Router.sampleRecord], .ok ()⟩] := by
  have hsifting : (Router.recordsOf ⟨0, "sample"⟩ sampleInquiry [⟨"list", .null⟩]).run.Ends
      [⟨.recordOf ⟨0, "sample"⟩ sampleInquiry ⟨"list", .null⟩, .ok Router.sampleRecord⟩]
      (.ok ⟨[Router.sampleRecord], 0⟩) :=
    Router.ends_recordsOf_cons_iff.2
      (.inl ⟨Router.sampleRecord, [], .ok ⟨[], 0⟩, rfl, ends_run_pure_iff.2 ⟨rfl, rfl⟩, rfl⟩)
  have hdelivering : (Router.sample.deliver sampleInquiry).run.Ends
      [⟨.fetch ⟨0, "sample"⟩ sampleInquiry, .ok [⟨"list", .null⟩]⟩,
        ⟨.recordOf ⟨0, "sample"⟩ sampleInquiry ⟨"list", .null⟩, .ok Router.sampleRecord⟩,
        ⟨.addRecords [Router.sampleRecord], .ok ()⟩] (.ok ⟨[Router.sampleRecord], 0⟩) :=
    Router.ends_deliver_ok_iff.2 ⟨⟨0, "sample"⟩, [⟨"list", .null⟩], _, rfl, hsifting, rfl⟩
  refine .cons hdelivering ?_ .nil
  exact List.forall_mem_cons.2
    ⟨rfl, List.forall_mem_cons.2 ⟨rfl, List.forall_mem_singleton.2 trivial⟩⟩

/-- A member that is no inquiry, one that is served and one that is too old. -/
def sampleTables : Tables where
  visits.visits := [("?", -40), (sampleInquiry.member, -40), ("\x7b\x7d", -41)]
  visits.ascending := by
    unfold Ascending
    decide +kernel

/-- Pages of a single member, and a retention that ends at the very second of two visits. -/
theorem records_of_sweep_sample :
    sampleTables.visits.size < 4 ∧
    ∃ (exchanges : List (Exchange surroundings)) (report : Option PassReport) (fates : List Fate),
      ((⟨.of 1 40, Router.sample, 60⟩ : Sweeper).sweep 4 .epoch).Ends exchanges report ∧
      sampleTables.Permits exchanges ∧
      (∀ x ∈ exchanges, sampleAnswers.Gives x ∧ ¬ FailsToRead x) ∧
      fates.map (·.member) = ["?", sampleInquiry.member] ∧
      (∀ fate ∈ fates, fate.Follows sampleAnswers Router.sample exchanges) ∧
      report = some ⟨2, fates.filterMap Fate.failure?⟩ ∧
      ∀ deliveries, InTurn sampleAnswers Router.sample (fates.filterMap Fate.served?) deliveries →
        (sampleTables.run deliveries).records = (sampleTables.run exchanges).records := by
  have hpages : sampleTables.visits.size < 4 := by decide
  obtain ⟨⟨exchanges, report, hends, hpermits, hgives⟩, h⟩ :=
    records_of_sweep sampleAnswers Router.sample sampleTables 1 40 60 .epoch hpages
  obtain ⟨fates, hmembers, hfollows, hreport, -, hrecords⟩ :=
    (h exchanges report hends hpermits).1 hgives
  have hlive : fates.map (·.member) = ["?", sampleInquiry.member] := hmembers
  have hlength : fates.length = 2 := by
    rw [← List.length_map, hlive]
    rfl
  exact ⟨hpages, exchanges, report, fates, hends, hpermits, hgives, hlive, hfollows,
    hlength ▸ hreport, hrecords⟩

/-- A single visit at the earliest score there is. -/
def earliestVisit : Tables where
  visits := ⟨[(sampleInquiry.member, Word.minInt64)], List.pairwise_singleton _ _⟩

/-- The longest retention there is. -/
def patientSweeper : Sweeper :=
  ⟨.of 10 18446744073709551615, Router.sample, 60⟩

/-- A visit is dropped although the retention reaches back to it, and its member adds nothing: the
retention is cut to a signed word, and the bound then lies one second after the visit. -/
theorem visit_within_retention_dropped :
    Time.Instant.epoch.seconds - patientSweeper.queue.retentionSecs ≤ Word.minInt64 ∧
    Inquiry.ofMember sampleInquiry.member = .ok sampleInquiry ∧
    (∃ deliveries, InTurn sampleAnswers Router.sample [sampleInquiry] deliveries) ∧
    ∃ exchanges : List (Exchange surroundings),
      (patientSweeper.sweep 2 .epoch).Ends exchanges (some ⟨0, []⟩) ∧
      earliestVisit.Permits exchanges ∧
      (∀ x ∈ exchanges, sampleAnswers.Gives x ∧ ¬ FailsToRead x) ∧
      ∀ deliveries, InTurn sampleAnswers Router.sample [sampleInquiry] deliveries →
        (earliestVisit.run exchanges).records ≠ (earliestVisit.run deliveries).records := by
  obtain ⟨exchanges, report, hends, hpermits, hgives⟩ :=
    sampleAnswers.exists_ends (patientSweeper.sweep 2 .epoch) earliestVisit
  obtain ⟨fates, hmembers, -, rfl, nothing, hturn, hrecords⟩ :=
    exists_fates_of_ends_sweep (Nat.le_max_right _ _) (by decide) hends hpermits hgives
  obtain rfl : fates = [] := List.map_eq_nil_iff.1 hmembers
  cases hturn
  refine ⟨by decide, sampleInquiry.ofMember_member, ⟨_, inTurn_sample⟩, exchanges, hends, hpermits,
    hgives, ?_⟩
  intro deliveries hdeliveries heq
  rw [← hrecords, hdeliveries.records_eq inTurn_sample rfl] at heq
  have hsize : 0 = 1 := congrArg RecordTable.size heq
  cases hsize

end Sweeper

end ChainCrawl
