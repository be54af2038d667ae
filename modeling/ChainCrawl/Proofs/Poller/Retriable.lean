import ChainCrawl.Proofs.Explorer.Account
import ChainCrawl.Proofs.Explorer.EventRecord
import ChainCrawl.Proofs.Explorer.Failure
import ChainCrawl.Proofs.Poller.Words
import ChainCrawl.Proofs.Table.Record

namespace ChainCrawl

open Proc

namespace Explorer

/-- What the adapter for explorers may make of an event; what it knows of tokens by then, and the
time of its clocks, may be anything. -/
def Makes (network : Network) (inquiry : Inquiry) (event : Event)
    (answer : Fallible ActivityRecord) : Prop :=
  ∃ cache ticks now, answer = (recordOf network cache ticks now inquiry event).1

/-- Where the adapter is called in the exchange, it is the one for explorers. Its fetch fails as
that of a client does, however the web answers the client, and the items that it fetches may be any.
-/
def Plays (client : Client) (network : Network) (adapter : AdapterRef) :
    Exchange surroundings → Prop
  | ⟨.fetch called inquiry, answer⟩ => called = adapter → ∀ e, answer = .error e →
      ∃ web, (fetch client inquiry).Ends web (.error e)
  | ⟨.recordOf called inquiry event, answer⟩ => called = adapter →
      Makes network inquiry event answer
  | _ => True

end Explorer

variable {client : Explorer.Client} {network : Network} {adapter : AdapterRef}
  {exchanges : List (Exchange surroundings)} {e : Failure}

namespace Router

variable {router : Router} {inquiry : Inquiry}

/-- A delivery over an explorer fails for a list that could not be read, or for the table of
records. -/
theorem unlisted_or_unstored_of_ends_deliver
    (h : (router.deliver inquiry).run.Ends exchanges (.error e))
    (hadapter : router.adapterOf inquiry = .ok adapter)
    (hplays : ∀ x ∈ exchanges, Explorer.Plays client network adapter x) :
    (⟨.fetch adapter inquiry, .error e⟩ ∈ exchanges ∧
      ∃ own f, Explorer.Unlisted client inquiry own f ∧ e = f.toFailure) ∨
      ∃ (batch : List ActivityRecord) (f : TableFailure),
        ⟨.addRecords batch, .error f⟩ ∈ exchanges ∧ e = f.toFailure := by
  obtain hfetch | ⟨hskip, event, hmem⟩ | hstoring := failed_call_of_ends_deliver h hadapter
  · obtain ⟨web, hweb⟩ := hplays _ hfetch rfl e rfl
    obtain ⟨own, f, -, hunlisted, rfl⟩ := Explorer.unlisted_of_ends_fetch hweb
    exact .inl ⟨hfetch, own, f, hunlisted, rfl⟩
  · obtain ⟨cache, ticks, now, hanswer⟩ := hplays _ hmem rfl
    obtain ⟨reason, rfl⟩ := Explorer.malformed_of_recordOf hanswer.symm
    cases hskip
  · exact .inr hstoring

theorem isRetriable_of_ends_deliver
    (h : (router.deliver inquiry).run.Ends exchanges (.error e))
    (hadapter : router.adapterOf inquiry = .ok adapter)
    (hplays : ∀ x ∈ exchanges, Explorer.Plays client network adapter x) : e.isRetriable := by
  obtain ⟨-, own, f, -, rfl⟩ | ⟨batch, f, -, rfl⟩ :=
    unlisted_or_unstored_of_ends_deliver h hadapter hplays
  · exact f.isRetriable_toFailure
  · exact f.isRetriable_toFailure

/-- A delivery over an explorer that succeeds has made what it could of every fetched item, and the
records are held. -/
theorem sifts_of_ends_deliver {d : Delivery}
    (h : (router.deliver inquiry).run.Ends exchanges (.ok d))
    (hadapter : router.adapterOf inquiry = .ok adapter)
    (hplays : ∀ x ∈ exchanges, Explorer.Plays client network adapter x) :
    (∃ events, ⟨.fetch adapter inquiry, .ok events⟩ ∈ exchanges ∧
      Sifts (Explorer.Makes network inquiry) events d) ∧
      ∀ (t : Tables), ∀ r ∈ d.records, ((t.run exchanges).records.get? r.identifier).isSome := by
  constructor
  · obtain ⟨adapter', events, sifting, hadapter', hsifting, rfl⟩ := ends_deliver_ok_iff.1 h
    obtain rfl : adapter = adapter' := Except.ok.inj (hadapter.symm.trans hadapter')
    refine ⟨events, List.mem_cons_self, (sifts_of_ends_recordsOf hsifting).mono ?_⟩
    intro event answer hmem
    exact hplays _ (List.mem_cons_of_mem _ (List.mem_append_left _ hmem)) rfl
  · intro t r hr
    rw [records_of_ends_deliver_ok h t]
    exact RecordTable.isSome_get?_addBatch_iff.2 (.inr ⟨r, hr, rfl⟩)

end Router

namespace Poller

variable {loop : Poller}

/-- No premise on the explorer is needed: before a cycle has an intent only a table can fail it, or
the look at the newest block. -/
theorem isRetriable_of_ends_intent (h : loop.intent.run.Ends exchanges (.error e)) :
    e.isRetriable := by
  generalize hresult : Except.error e = result at h
  cases ends_intent_iff.1 h with
  | unloaded f =>
    cases hresult
    exact f.isRetriable_toFailure
  | unseen cause _ _ =>
    cases hresult
    exact loop.finality.isRetriable_failure cause
  | crossed | ready | early => cases hresult

/-- A cycle whose deliveries fail only for a time fails only for a time. -/
theorem isRetriable_of_ends_cycle (h : loop.cycle.Ends exchanges (.failed e))
    (hdeliver : ∀ {window delivering cause}, delivering ⊆ exchanges →
      (loop.router.deliver (loop.inquiryFor window)).run.Ends delivering (.error cause) →
      cause.isRetriable) : e.isRetriable := by
  generalize houtcome : CycleEnd.failed e = outcome at h
  cases ends_cycle_iff.1 h with
  | aimless hintent =>
    cases houtcome
    exact isRetriable_of_ends_intent hintent
  | stopped => cases houtcome
  | waited _ saved | delivered _ _ saved =>
    cases saved with
    | ok => cases houtcome
    | error f =>
      cases houtcome
      exact f.isRetriable_toFailure
  | undelivered _ hdelivering _ =>
    cases houtcome
    refine hdeliver ?_ hdelivering
    exact List.subset_append_of_subset_right _ (List.subset_append_left _ _)

/-- Over an explorer a delivery fails only for one of its lists or for the table of records, and
what it fails for may pass. One that succeeds has counted the items that cannot become records, and
holds the records of all others. And every failure of a cycle may pass. No premise is needed on how
the web, the chain and the tables answer, and none on the items. -/
theorem failures_over_explorer_pass (router : Router)
    (hplays : ∀ x ∈ exchanges, Explorer.Plays client network adapter x) :
    (∀ inquiry, router.adapterOf inquiry = .ok adapter →
      (∀ e, (router.deliver inquiry).run.Ends exchanges (.error e) → e.isRetriable ∧
        ((⟨.fetch adapter inquiry, .error e⟩ ∈ exchanges ∧
          ∃ own f, Explorer.Unlisted client inquiry own f ∧ e = f.toFailure) ∨
          ∃ (batch : List ActivityRecord) (f : TableFailure),
            ⟨.addRecords batch, .error f⟩ ∈ exchanges ∧ e = f.toFailure)) ∧
      ∀ d, (router.deliver inquiry).run.Ends exchanges (.ok d) →
        (∃ events, ⟨.fetch adapter inquiry, .ok events⟩ ∈ exchanges ∧
          Router.Sifts (Explorer.Makes network inquiry) events d) ∧
        ∀ (t : Tables), ∀ r ∈ d.records,
          ((t.run exchanges).records.get? r.identifier).isSome) ∧
      ∀ source : Source, router.adapters.select source.network none = .ok adapter →
        ∀ e, (Poller.of source router).cycleInWords.Ends exchanges (some (.failed e)) →
          e.isRetriable := by
  constructor
  · intro inquiry hadapter
    constructor
    · intro e h
      exact ⟨Router.isRetriable_of_ends_deliver h hadapter hplays,
        Router.unlisted_or_unstored_of_ends_deliver h hadapter hplays⟩
    · intro d h
      exact Router.sifts_of_ends_deliver h hadapter hplays
  · intro source hadapter e h
    have hcycle := ends_cycle_of_ends_cycleInWords h
    refine isRetriable_of_ends_cycle hcycle fun hsub hdeliver => ?_
    exact Router.isRetriable_of_ends_deliver hdeliver hadapter fun x hx => hplays x (hsub hx)

/-- A client that was given no address. -/
def astrayClient : Explorer.Client :=
  ⟨"", "key"⟩

/-- What a fetch of that client fails with. -/
def astrayFailure : Failure :=
  (ExplorerFailure.network "builder error").toFailure

/-- An event from where the adapter knows of none. -/
def strayEvent : Event :=
  ⟨"logs", .null⟩

/-- A delivery of the sample transaction after a stray event, with the record that it stores. -/
def strayDelivery (r : ActivityRecord) : List (Exchange surroundings) :=
  [⟨.fetch ⟨0, "sample"⟩ Explorer.sampleInquiry,
      .ok [strayEvent, ⟨Explorer.transactionEndpoint, Explorer.AccountItem.sample.payload⟩]⟩,
    ⟨.recordOf ⟨0, "sample"⟩ Explorer.sampleInquiry strayEvent,
      .error (.malformed "unknown endpoint: logs")⟩,
    Router.skipReport ⟨0, "sample"⟩ Explorer.sampleInquiry strayEvent "unknown endpoint: logs",
    ⟨.recordOf ⟨0, "sample"⟩ Explorer.sampleInquiry
      ⟨Explorer.transactionEndpoint, Explorer.AccountItem.sample.payload⟩, .ok r⟩,
    ⟨.addRecords [r], .ok ()⟩]

/-- A cycle whose client was given no address fails for a time, and a stray event is counted while
the transaction beside it is held. -/
theorem failures_over_explorer_pass_sample :
    (∃ exchanges : List (Exchange surroundings),
      (Poller.of .sample .sample).cycleInWords.Ends exchanges (some (.failed astrayFailure)) ∧
        (∀ x ∈ exchanges, Explorer.Plays astrayClient .ethereum ⟨0, "sample"⟩ x) ∧
        astrayFailure.isRetriable) ∧
      ∃ r : ActivityRecord,
        (Router.sample.deliver Explorer.sampleInquiry).run.Ends (strayDelivery r) (.ok ⟨[r], 1⟩) ∧
          (∀ x ∈ strayDelivery r, Explorer.Plays .sample .ethereum ⟨0, "sample"⟩ x) ∧
          ((({} : Tables).run (strayDelivery r)).records.get? r.identifier).isSome := by
  constructor
  · let exchanges : List (Exchange surroundings) :=
      [loading (.of .sample .sample) (.ok none), looking (.of .sample .sample) (.ok 124),
        ⟨.fetch ⟨0, "sample"⟩ Explorer.sampleInquiry, .error astrayFailure⟩]
    have hcycle : (Poller.of .sample .sample).cycleInWords.Ends exchanges
        (some (.failed astrayFailure)) :=
      .ask (.ask (.ask (.nil _)))
    have hplays : ∀ x ∈ exchanges, Explorer.Plays astrayClient .ethereum ⟨0, "sample"⟩ x := by
      intro x hx
      simp only [exchanges, List.mem_cons, List.not_mem_nil, or_false] at hx
      rcases hx with rfl | rfl | rfl
      · trivial
      · trivial
      · rintro - e heq
        cases heq
        exact ⟨[], .nil _⟩
    obtain ⟨-, hpass⟩ := failures_over_explorer_pass .sample hplays
    exact ⟨exchanges, hcycle, hplays, hpass .sample rfl _ hcycle⟩
  · obtain ⟨r, hr⟩ := @Explorer.exists_recordOf_of_isDated .ethereum ⟨0, []⟩ 0 .epoch
      Explorer.sampleInquiry _ _ Explorer.decode_sample (by constructor <;> decide)
    have hdeliver : (Router.sample.deliver Explorer.sampleInquiry).run.Ends (strayDelivery r)
        (.ok ⟨[r], 1⟩) :=
      .ask (.ask (.ask (.ask (.ask (.nil _)))))
    have hplays : ∀ x ∈ strayDelivery r, Explorer.Plays .sample .ethereum ⟨0, "sample"⟩ x := by
      intro x hx
      simp only [strayDelivery, List.mem_cons, List.not_mem_nil, or_false] at hx
      rcases hx with rfl | rfl | rfl | rfl | rfl
      · rintro - e heq
        cases heq
      · exact fun _ => ⟨⟨0, []⟩, 0, .epoch, rfl⟩
      · trivial
      · exact fun _ => ⟨_, _, _, hr.symm⟩
      · trivial
    obtain ⟨hpass, -⟩ := failures_over_explorer_pass .sample hplays
    obtain ⟨-, hheld⟩ := (hpass _ rfl).2 _ hdeliver
    exact ⟨r, hdeliver, hplays, hheld {} r List.mem_cons_self⟩

end Poller

end ChainCrawl
