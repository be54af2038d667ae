import ChainCrawl.Proofs.Inquiry.Member
import ChainCrawl.Proofs.Visit.Isolation

namespace ChainCrawl

open Proc

namespace Router

variable {router : Router} {p : Inquiry} {exchanges : List (Exchange surroundings)}

/-- The member stands for an inquiry that some adapter serves. -/
def ServesMember (router : Router) (member : String) : Prop :=
  ∃ p, Inquiry.ofMember member = .ok p ∧ router.adapters.serves p.network p.platform

/-- Adapters do not depend on the window, which the member leaves out. -/
theorem servesMember_of_adapterOf {adapter : AdapterRef} (h : router.adapterOf p = .ok adapter) :
    router.ServesMember p.member :=
  ⟨p.withoutWindow, p.ofMember_member, AdapterTable.serves_iff.2 ⟨adapter, h⟩⟩

/-- Every member of the table is served. -/
def ServesAll (router : Router) (s : VisitTable) : Prop :=
  ∀ v ∈ s.visits, router.ServesMember v.1

theorem ServesAll.upsert {s : VisitTable} (h : router.ServesAll s) {member : String}
    (hmember : router.ServesMember member) (score : Int) :
    router.ServesAll (s.upsert member score) := by
  intro v hv
  obtain hname | hv := mem_upsertVisit hv
  · rwa [hname]
  · exact h v hv

theorem ServesAll.dropBelow {s : VisitTable} (h : router.ServesAll s) (least : Int) :
    router.ServesAll (s.dropBelow least).2 :=
  fun v hv => h v (List.mem_filter.1 hv).1

/-- No adapter that is called in the exchange answers that nobody serves the inquiry. -/
def NotDeclined : Exchange surroundings → Prop
  | ⟨.fetch _ _, .error (.unserved _ _)⟩ => False
  | ⟨.recordOf _ _ _, .error (.unserved _ _)⟩ => False
  | _ => True

/-- An inquiry on demand changes no visit but its own, and that only if some adapter serves it. -/
theorem visits_of_ends_onDemand {result : Fallible Delivery}
    (h : (router.onDemand p).run.Ends exchanges result) (t : Tables) :
    (t.run exchanges).visits = t.visits ∨
      router.ServesMember p.member ∧
        ∃ score, (t.run exchanges).visits = t.visits.upsert p.member score := by
  obtain ⟨e, -, rfl, -⟩ | ⟨adapter, remembering, delivering, hadapter, rfl, hremembering,
    hdelivering⟩ := ends_onDemand_iff.1 h
  · exact .inl rfl
  have hspares := Tables.visits_run (t := t.run remembering)
    (sparesVisits_of_ends_deliver hdelivering)
  rw [Tables.run_append, hspares]
  obtain ⟨-, rfl⟩ | ⟨q, instant, -, rfl | ⟨e, rfl⟩⟩ := ends_rememberVisit_iff.1 hremembering
  · exact .inl rfl
  · exact .inr ⟨servesMember_of_adapterOf hadapter, instant.seconds, rfl⟩
  · exact .inl rfl

theorem servesAll_of_ends_onDemand {result : Fallible Delivery} {t : Tables}
    (h : (router.onDemand p).run.Ends exchanges result) (hserved : router.ServesAll t.visits) :
    router.ServesAll (t.run exchanges).visits := by
  obtain heq | ⟨hmember, score, heq⟩ := visits_of_ends_onDemand h t <;> rw [heq]
  · exact hserved
  · exact hserved.upsert hmember score

/-- A delivery for a served inquiry fails for no want of an adapter, and only a fetch can fail as
unreadable. -/
theorem cause_of_ends_deliver {adapter : AdapterRef} {e : Failure}
    (h : (router.deliver p).run.Ends exchanges (.error e))
    (hadapter : router.adapterOf p = .ok adapter) (hdeclined : ∀ x ∈ exchanges, NotDeclined x) :
    (∀ network platform, e ≠ .unserved network platform) ∧
      ∀ message, e = .decode message → ⟨.fetch adapter p, .error e⟩ ∈ exchanges := by
  obtain hfetch | ⟨hskip, event, hmem⟩ | ⟨batch, f, -, rfl⟩ :=
    failed_call_of_ends_deliver h hadapter
  · refine ⟨fun network platform heq => ?_, fun _ _ => hfetch⟩
    have hdeclines := hdeclined _ hfetch
    rw [heq] at hdeclines
    exact hdeclines
  · refine ⟨fun network platform heq => ?_, fun message heq => ?_⟩
    · have hdeclines := hdeclined _ hmem
      rw [heq] at hdeclines
      exact hdeclines
    · rw [heq] at hskip
      cases hskip
  · exact ⟨fun _ _ heq => Failure.noConfusion heq, fun _ heq => Failure.noConfusion heq⟩

end Router

namespace VisitQueue

variable {w : Sweeper} {exchanges more : List (Exchange surroundings)} {t : Tables}

/-- A failure for which no member is dropped. An adapter serves the member, and what could not be
read is not the member but what its adapter fetched. -/
def KeepsMember (exchanges : List (Exchange surroundings)) : PassFailure → Prop
  | .member member cause =>
    (∀ network platform, cause ≠ .unserved network platform) ∧
      ∀ message, cause = .decode message → ∃ adapter p, Inquiry.ofMember member = .ok p ∧
        ⟨.fetch adapter p, .error cause⟩ ∈ exchanges
  | .scan cause => ∃ e : TableFailure, cause = e.toFailure

theorem KeepsMember.mono {failure : PassFailure} (h : KeepsMember exchanges failure)
    (hsub : exchanges ⊆ more) : KeepsMember more failure := by
  cases failure with
  | scan cause => exact h
  | member member cause =>
    refine ⟨h.1, fun message heq => ?_⟩
    obtain ⟨adapter, p, hread, hmem⟩ := h.2 message heq
    exact ⟨adapter, p, hread, hsub hmem⟩

theorem Encounter.keeps {member : String} {failure : Option PassFailure}
    (h : Encounter w.serve member exchanges failure) (hserved : w.router.ServesMember member)
    (hdeclined : ∀ x ∈ exchanges, Router.NotDeclined x) :
    (∀ x ∈ exchanges, SparesVisits x.1) ∧ ∀ e ∈ failure, KeepsMember exchanges e := by
  obtain ⟨p, hread, hserves⟩ := hserved
  obtain ⟨adapter, hadapter⟩ := AdapterTable.serves_iff.1 hserves
  cases h with
  | unread hunread =>
    rw [hread] at hunread
    cases hunread
  | served hread' hserving => exact ⟨w.spares_serve _ _ _ hserving, by simp⟩
  | @failed p' e serving hread' hserving =>
    obtain rfl : p = p' := Except.ok.inj (hread.symm.trans hread')
    have hdeliver := Sweeper.ends_serve_error_iff.1 hserving
    obtain ⟨hcause, hfetch⟩ := Router.cause_of_ends_deliver hdeliver hadapter hdeclined
    refine ⟨w.spares_serve _ _ _ hserving, fun failure hfailure => ?_⟩
    obtain rfl := Option.some.inj hfailure
    exact ⟨hcause, fun message heq => ⟨adapter, p, hread, hfetch message heq⟩⟩
  | @refused p' e serving removing hread' hserving hpermanent hremoving =>
    obtain rfl : p = p' := Except.ok.inj (hread.symm.trans hread')
    have hdeliver := Sweeper.ends_serve_error_iff.1 hserving
    obtain ⟨hcause, -⟩ := Router.cause_of_ends_deliver hdeliver hadapter
      fun x hx => hdeclined x (List.mem_append_left _ hx)
    cases e with
    | unserved network platform => exact absurd rfl (hcause network platform)
    | _ => cases hpermanent

theorem Round.keeps {page : List Visit} {failures : List PassFailure}
    (h : Round w.serve page exchanges failures)
    (hserved : ∀ v ∈ page, w.router.ServesMember v.1)
    (hdeclined : ∀ x ∈ exchanges, Router.NotDeclined x) :
    (∀ x ∈ exchanges, SparesVisits x.1) ∧ ∀ e ∈ failures, KeepsMember exchanges e := by
  induction h with
  | nil => simp
  | @cons v rest first more failure failures hfirst hrest ih =>
    obtain ⟨hdeclinedFirst, hdeclinedRest⟩ := List.forall_mem_append.1 hdeclined
    obtain ⟨hv, hserved⟩ := List.forall_mem_cons.1 hserved
    obtain ⟨hspares, hkeeps⟩ := hfirst.keeps hv hdeclinedFirst
    obtain ⟨hsparesRest, hkeepsRest⟩ := ih hserved hdeclinedRest
    refine ⟨List.forall_mem_append.2 ⟨hspares, hsparesRest⟩, List.forall_mem_append.2 ⟨?_, ?_⟩⟩
    · intro e he
      exact (hkeeps e (Option.mem_toList.1 he)).mono (List.subset_append_left _ _)
    · intro e he
      exact (hkeepsRest e he).mono (List.subset_append_right _ _)

/-- A pass over members that are all served leaves the visits as they are. -/
theorem Course.keeps {q : VisitQueue} {least : Int} {pages : Nat} {after : Option String}
    {report : Option PassReport} (h : Course q least w.serve pages after exchanges report)
    (hserved : w.router.ServesAll t.visits) (hpermits : t.Permits exchanges)
    (hdeclined : ∀ x ∈ exchanges, Router.NotDeclined x) :
    (t.run exchanges).visits = t.visits ∧
      ∀ r ∈ report, ∀ e ∈ r.errors, KeepsMember exchanges e := by
  induction h generalizing t with
  | cutOff => exact ⟨rfl, by simp⟩
  | unread e =>
    refine ⟨rfl, fun r hr => ?_⟩
    obtain rfl := Option.some.inj hr
    exact List.forall_mem_singleton.2 ⟨e, rfl⟩
  | @last pages after page round failures hround =>
    obtain ⟨-, hpage⟩ := mem_of_allows_reading hpermits.1
    obtain ⟨hspares, hkeeps⟩ := hround.keeps (fun v hv => hserved v (hpage v hv).1)
      fun x hx => hdeclined x (List.mem_cons_of_mem _ hx)
    have hround : (t.run round).visits = t.visits := Tables.visits_run hspares
    refine ⟨hround, fun r hr e he => ?_⟩
    obtain rfl := Option.some.inj hr
    exact (hkeeps e he).mono (List.subset_cons_self _ _)
  | @more pages after page v round rest failures report hround hfull hlast hrest ih =>
    obtain ⟨hpage, hpermits⟩ := hpermits
    obtain ⟨-, hpage⟩ := mem_of_allows_reading hpage
    obtain ⟨-, hdeclined⟩ := List.forall_mem_cons.1 hdeclined
    obtain ⟨hdeclinedRound, hdeclinedRest⟩ := List.forall_mem_append.1 hdeclined
    obtain ⟨-, hpermitsRest⟩ := Tables.permits_append_iff.1 hpermits
    obtain ⟨hspares, hkeeps⟩ := hround.keeps (fun v hv => hserved v (hpage v hv).1)
      hdeclinedRound
    have hround : (t.run round).visits = t.visits := Tables.visits_run hspares
    obtain ⟨hvisits, hkeepsRest⟩ := ih (t := t.run round) (by rwa [hround]) hpermitsRest
      hdeclinedRest
    refine ⟨?_, fun r hr e he => ?_⟩
    · change (t.run (round ++ rest)).visits = t.visits
      rw [Tables.run_append, hvisits, hround]
    · obtain ⟨later, hlater, rfl⟩ := Option.map_eq_some_iff.1 hr
      obtain he | he := List.mem_append.1 he
      · exact (hkeeps e he).mono (List.subset_cons_of_subset _ (List.subset_append_left _ _))
      · exact (hkeepsRest later hlater e he).mono
          (List.subset_cons_of_subset _ (List.subset_append_right _ _))

end VisitQueue

namespace Sweeper

variable {w : Sweeper} {start t : Tables} {now : Time.Instant} {pages : Nat}
  {exchanges : List (Exchange surroundings)}

/-- Inquiries on demand and sweeps lead from some tables to others, one after the other. Whatever
they ask of a table may fail. -/
inductive Reaches (w : Sweeper) (start : Tables) : Tables → Prop where
  | start : Reaches w start start
  | asked {t : Tables} {p : Inquiry} {exchanges : List (Exchange surroundings)}
      {result : Fallible Delivery} (h : Reaches w start t)
      (hends : (w.router.onDemand p).run.Ends exchanges result) (hpermits : t.Permits exchanges) :
      Reaches w start (t.run exchanges)
  | swept {t : Tables} {pages : Nat} {now : Time.Instant}
      {exchanges : List (Exchange surroundings)} {report : Option PassReport}
      (h : Reaches w start t) (hends : (w.sweep pages now).Ends exchanges report)
      (hpermits : t.Permits exchanges) (hdeclined : ∀ x ∈ exchanges, Router.NotDeclined x) :
      Reaches w start (t.run exchanges)

/-- A sweep over members that are all served drops the old visits, or not even these. -/
theorem visits_of_ends_sweep {report : Option PassReport}
    (hends : (w.sweep pages now).Ends exchanges report) (hpermits : t.Permits exchanges)
    (hdeclined : ∀ x ∈ exchanges, Router.NotDeclined x)
    (hserved : w.router.ServesAll t.visits) :
    ((t.run exchanges).visits = t.visits ∨
      (t.run exchanges).visits = (t.visits.dropBelow (w.least now)).2) ∧
      ∀ r ∈ report, ∀ e ∈ r.errors, VisitQueue.KeepsMember exchanges e := by
  obtain ⟨answer, passing, rfl, hcourse⟩ := ends_sweep_iff.1 hends
  obtain ⟨-, hpassing⟩ := (permits_expiring_append_iff hcourse).1 hpermits
  obtain ⟨-, hdeclined⟩ := List.forall_mem_append.1 hdeclined
  obtain ⟨hvisits, hkeeps⟩ := hcourse.keeps hserved hpassing hdeclined
  refine ⟨?_, fun r hr e he => (hkeeps r hr e he).mono (List.subset_append_right _ _)⟩
  obtain heq | heq := run_expiring_append t answer hcourse <;> rw [heq]
  · exact .inl hvisits
  · exact .inr (by rw [Tables.aged, hvisits])

theorem servesAll_of_ends_sweep {report : Option PassReport}
    (hends : (w.sweep pages now).Ends exchanges report) (hpermits : t.Permits exchanges)
    (hdeclined : ∀ x ∈ exchanges, Router.NotDeclined x) (hserved : w.router.ServesAll t.visits) :
    w.router.ServesAll (t.run exchanges).visits := by
  obtain ⟨heq | heq, -⟩ := visits_of_ends_sweep hends hpermits hdeclined hserved <;> rw [heq]
  · exact hserved
  · exact hserved.dropBelow _

/-- Every member of the queue is served, since only such inquiries are remembered. -/
theorem servesAll_of_reaches (hstart : start.visits = .empty) (h : w.Reaches start t) :
    w.router.ServesAll t.visits := by
  induction h with
  | start =>
    intro v hv
    rw [hstart] at hv
    cases hv
  | asked h hends hpermits ih => exact Router.servesAll_of_ends_onDemand hends ih
  | swept h hends hpermits hdeclined ih => exact servesAll_of_ends_sweep hends hpermits hdeclined ih

/-- Where the queue is filled on demand only, every member stands for an inquiry that some adapter
serves. An inquiry on demand removes no member, and a sweep only those whose visits are too old. No
sweep reports that an adapter is wanting, and none that a member cannot be read unless that is what
an adapter answered. No premise on the tables is needed: any call of theirs may fail. -/
theorem dropped_only_by_age (hstart : start.visits = .empty) (h : w.Reaches start t) :
    (∀ v ∈ t.visits.visits, ∃ p, Inquiry.ofMember v.1 = .ok p ∧
      w.router.adapters.serves p.network p.platform) ∧
    (∀ (p : Inquiry) (exchanges : List (Exchange surroundings)) (result : Fallible Delivery),
      (w.router.onDemand p).run.Ends exchanges result → t.Permits exchanges →
      ∀ v ∈ t.visits.visits, ∃ score, v.2 ≤ score ∧
        (v.1, score) ∈ (t.run exchanges).visits.visits) ∧
    ∀ (pages : Nat) (now : Time.Instant) (exchanges : List (Exchange surroundings))
      (report : Option PassReport), (w.sweep pages now).Ends exchanges report →
      t.Permits exchanges → (∀ x ∈ exchanges, Router.NotDeclined x) →
      (∀ v ∈ t.visits.visits, v ∉ (t.run exchanges).visits.visits →
        v.2 < oldestKept now w.queue.retentionSecs) ∧
      ∀ r ∈ report, ∀ e ∈ r.errors, VisitQueue.KeepsMember exchanges e := by
  have hserved := servesAll_of_reaches hstart h
  refine ⟨hserved, fun p exchanges result hends _ v hv => ?_,
    fun pages now exchanges report hends hpermits hdeclined => ?_⟩
  · obtain heq | ⟨-, score, heq⟩ := Router.visits_of_ends_onDemand hends t <;> rw [heq]
    · exact ⟨v.2, Int.le_refl _, hv⟩
    · exact VisitTable.exists_mem_upsert hv p.member score
  · obtain ⟨hvisits, hkeeps⟩ := visits_of_ends_sweep hends hpermits hdeclined hserved
    refine ⟨fun v hv hgone => ?_, hkeeps⟩
    obtain heq | heq := hvisits <;> rw [heq] at hgone
    · exact absurd hv hgone
    · have hold : ¬ w.least now ≤ v.2 := fun hle =>
        hgone (List.mem_filter.2 ⟨hv, decide_eq_true hle⟩)
      exact Int.not_le.1 hold

def sampleSweeper : Sweeper :=
  ⟨.of 10 600, { Router.sample with queue := some (.of 10 600) }, 60⟩

/-- Every adapter is answered by its service with what cannot be read. -/
def unreadableAnswers : AdapterAnswers where
  fetch _ _ := .error (.decode "bad page")
  recordOf _ _ _ := .error (.decode "bad page")

theorem notDeclined_of_gives_unreadable {x : Exchange surroundings}
    (h : unreadableAnswers.Gives x) : Router.NotDeclined x := by
  obtain ⟨r, answer⟩ := x
  cases r with
  | fetch adapter p =>
    obtain rfl : answer = .error (.decode "bad page") := h
    trivial
  | recordOf adapter p event =>
    obtain rfl : answer = .error (.decode "bad page") := h
    trivial
  | _ => trivial

/-- What the tables hold after an inquiry on demand. -/
def remembered : Tables where
  visits := ⟨[(sampleInquiry.member, 0)], List.pairwise_singleton _ _⟩

/-- An inquiry is remembered although its delivery fails. -/
theorem reaches_remembered : sampleSweeper.Reaches {} remembered := by
  have hremembering : (sampleSweeper.router.rememberVisit sampleInquiry).Ends
      [⟨.now, Time.Instant.epoch⟩, ⟨.upsertVisit sampleInquiry.member 0, .ok ()⟩] () :=
    Router.ends_rememberVisit_iff.2 (.inr ⟨_, .epoch, rfl, .inl rfl⟩)
  have hdelivering : (sampleSweeper.router.deliver sampleInquiry).run.Ends
      [⟨.fetch ⟨0, "sample"⟩ sampleInquiry, .error (.decode "bad page")⟩]
      (.error (.decode "bad page")) :=
    Router.ends_deliver_iff.2 (.inr ⟨⟨0, "sample"⟩, rfl, .inl ⟨_, rfl, rfl⟩⟩)
  have hasked := Router.ends_onDemand_iff.2
    (.inr ⟨⟨0, "sample"⟩, _, _, rfl, rfl, hremembering, hdelivering⟩)
  have hstart : sampleSweeper.Reaches {} {} := .start
  exact hstart.asked hasked ⟨trivial, trivial, trivial, trivial⟩

/-- A member whose delivery fails again and again is still there after a sweep. -/
theorem dropped_only_by_age_sample :
    sampleSweeper.Reaches {} remembered ∧
    (sampleInquiry.member, 0) ∈ remembered.visits.visits ∧
    (∃ p, Inquiry.ofMember sampleInquiry.member = .ok p ∧
      sampleSweeper.router.adapters.serves p.network p.platform) ∧
    ∃ (exchanges : List (Exchange surroundings)) (report : Option PassReport),
      (sampleSweeper.sweep 2 .epoch).Ends exchanges report ∧
      remembered.Permits exchanges ∧ (∀ x ∈ exchanges, Router.NotDeclined x) ∧
      (sampleInquiry.member, 0) ∈ (remembered.run exchanges).visits.visits := by
  obtain ⟨exchanges, report, hends, hpermits, hgives⟩ :=
    unreadableAnswers.exists_ends (sampleSweeper.sweep 2 .epoch) remembered
  have hdeclined : ∀ x ∈ exchanges, Router.NotDeclined x :=
    fun x hx => notDeclined_of_gives_unreadable (hgives x hx).1
  have hmem : (sampleInquiry.member, 0) ∈ remembered.visits.visits := List.mem_cons_self
  obtain ⟨hserved, -, hsweep⟩ := dropped_only_by_age rfl reaches_remembered
  refine ⟨reaches_remembered, hmem, hserved _ hmem, exchanges, report, hends, hpermits, hdeclined,
    ?_⟩
  refine Decidable.byContradiction fun hgone => ?_
  have hold := (hsweep 2 .epoch exchanges report hends hpermits hdeclined).1 _ hmem hgone
  revert hold
  decide

/-- A sweep reports of a member that it remembers that something cannot be read: what the adapter
fetched for it. -/
theorem unreadable_answer_reported :
    sampleSweeper.Reaches {} remembered ∧
    ∃ exchanges : List (Exchange surroundings),
      (sampleSweeper.sweep 2 .epoch).Ends exchanges
        (some ⟨1, [.member sampleInquiry.member (.decode "bad page")]⟩) ∧
      remembered.Permits exchanges ∧ ∀ x ∈ exchanges, Router.NotDeclined x := by
  obtain ⟨exchanges, report, hends, hpermits, hgives⟩ :=
    unreadableAnswers.exists_ends (sampleSweeper.sweep 2 .epoch) remembered
  obtain ⟨fates, hmembers, hfollows, rfl, -⟩ :=
    exists_fates_of_ends_sweep (Nat.le_max_right _ _) (by decide) hends hpermits hgives
  obtain ⟨⟨member, result⟩, rfl, rfl⟩ := List.map_eq_singleton_iff.1 hmembers
  have houtcome : unreadableAnswers.outcome sampleSweeper.router sampleInquiry.member =
      .error (.decode "bad page") := by
    rw [AdapterAnswers.outcome_of_read sampleInquiry.ofMember_member]
    rfl
  obtain hresult | ⟨d, e, hd, -⟩ := hfollows _ List.mem_cons_self
  · obtain rfl : result = _ := hresult.trans houtcome
    exact ⟨reaches_remembered, exchanges, hends, hpermits,
      fun x hx => notDeclined_of_gives_unreadable (hgives x hx).1⟩
  · rw [houtcome] at hd
    cases hd

end Sweeper

end ChainCrawl
