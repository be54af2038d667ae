import ChainCrawl.Delivery.Router
import ChainCrawl.Proofs.Work.Tables
import Mathlib.Data.List.Forall2

namespace ChainCrawl

theorem AdapterTable.serves_iff {table : AdapterTable} {network : Network}
    {platform : Option Platform} :
    table.serves network platform ↔ ∃ adapter, table.select network platform = .ok adapter := by
  unfold serves select
  cases (table.entry? network platform).or (table.entry? network none) <;> simp

/-- The inquiry that a request puts to an adapter. -/
def WorkRequest.inquiry? : WorkRequest → Option Inquiry
  | .fetch _ inquiry | .recordOf _ inquiry _ => some inquiry
  | _ => none

/-- The window of an exchange that fetches one. -/
def fetchedWindow? : Exchange surroundings → Option Window
  | ⟨.fetch _ inquiry, _⟩ => inquiry.window
  | _ => none

theorem fetchedWindow?_eq_none {e : Exchange surroundings} (h : e.1.inquiry? = none) :
    fetchedWindow? e = none := by
  obtain ⟨r, answer⟩ := e
  cases r with
  | fetch => cases h
  | _ => rfl

namespace Router

open Proc

variable {adapter : AdapterRef} {inquiry : Inquiry} {exchanges : List (Exchange surroundings)}

def skipReport (adapter : AdapterRef) (inquiry : Inquiry) (event : Event) (reason : String) :
    Exchange surroundings :=
  ⟨.log ⟨.warn, "Skipping malformed record",
    [("adapter", adapter.name), ("network", inquiry.network.name), ("identity", inquiry.identity),
      ("endpoint", event.endpoint), ("error", reason)]⟩, ()⟩

/-- The record of the first event is kept, or the event is left out with a report, or its failure
is that of all. -/
theorem ends_recordsOf_cons_iff {event : Event} {rest : List Event} {b : Fallible Delivery} :
    (recordsOf adapter inquiry (event :: rest)).run.Ends exchanges b ↔
      (∃ r more d, exchanges = ⟨.recordOf adapter inquiry event, .ok r⟩ :: more ∧
        (recordsOf adapter inquiry rest).run.Ends more d ∧
        b = d.map fun d => { d with records := r :: d.records }) ∨
      (∃ e reason more d, e.skipReason? = some reason ∧
        exchanges = ⟨.recordOf adapter inquiry event, .error e⟩ ::
          skipReport adapter inquiry event reason :: more ∧
        (recordsOf adapter inquiry rest).run.Ends more d ∧
        b = d.map fun d => { d with skipped := d.skipped + 1 }) ∨
      ∃ e, e.skipReason? = none ∧
        exchanges = [⟨.recordOf adapter inquiry event, .error e⟩] ∧ b = .error e := by
  rw [recordsOf, Work.ends_run_ask_bind_iff]
  constructor
  · rintro ⟨answer, more, rfl, hmore⟩
    cases answer with
    | ok r =>
      obtain ⟨d, hrest, rfl⟩ := ends_run_bind_pure_iff.1 hmore
      exact .inl ⟨r, more, d, rfl, hrest, rfl⟩
    | error e =>
      dsimp only at hmore
      cases hskip : e.skipReason? with
      | none =>
        rw [hskip] at hmore
        obtain ⟨rfl, rfl⟩ := ends_run_throw_iff.1 hmore
        exact .inr (.inr ⟨e, hskip, rfl, rfl⟩)
      | some reason =>
        rw [hskip] at hmore
        obtain ⟨_, later, rfl, hlater⟩ := (Work.ends_run_ask_bind_iff (r := .log _)).1 hmore
        obtain ⟨d, hrest, rfl⟩ := ends_run_bind_pure_iff.1 hlater
        exact .inr (.inl ⟨e, reason, later, d, hskip, rfl, hrest, rfl⟩)
  · rintro (⟨r, more, d, rfl, hrest, rfl⟩ | ⟨e, reason, more, d, hskip, rfl, hrest, rfl⟩ |
      ⟨e, hskip, rfl, rfl⟩)
    · exact ⟨.ok r, more, rfl, ends_run_bind_pure_iff.2 ⟨d, hrest, rfl⟩⟩
    · refine ⟨.error e, _, rfl, ?_⟩
      dsimp only
      rw [hskip]
      exact (Work.ends_run_ask_bind_iff (r := .log _)).2
        ⟨(), more, rfl, ends_run_bind_pure_iff.2 ⟨d, hrest, rfl⟩⟩
    · refine ⟨.error e, [], rfl, ?_⟩
      dsimp only
      rw [hskip]
      exact ends_run_throw_iff.2 ⟨rfl, rfl⟩

/-- A request that changes no table and asks nothing of a loop's surroundings but its adapter. -/
def IsReading : WorkRequest → Prop
  | .fetch _ _ | .recordOf _ _ _ | .log _ => True
  | _ => False

/-- Bringing events into records asks for their records and reports. -/
theorem request_of_ends_recordsOf {events : List Event} {b : Fallible Delivery}
    (h : (recordsOf adapter inquiry events).run.Ends exchanges b) :
    ∀ e ∈ exchanges, (∃ event, e.1 = .recordOf adapter inquiry event) ∨
      ∃ entry, e.1 = .log entry := by
  induction events generalizing exchanges b with
  | nil =>
    obtain ⟨rfl, -⟩ := ends_run_pure_iff.1 h
    simp
  | cons event rest ih =>
    obtain ⟨r, more, d, rfl, hrest, -⟩ | ⟨e, reason, more, d, -, rfl, hrest, -⟩ | ⟨e, -, rfl, -⟩ :=
      ends_recordsOf_cons_iff.1 h
    · simpa using ih hrest
    · simpa [skipReport] using ih hrest
    · simp

theorem isReading_of_ends_recordsOf {events : List Event} {b : Fallible Delivery}
    (h : (recordsOf adapter inquiry events).run.Ends exchanges b) :
    ∀ e ∈ exchanges, IsReading e.1 := by
  intro e he
  obtain ⟨event, hrequest⟩ | ⟨entry, hrequest⟩ := request_of_ends_recordsOf h e he
  · rw [hrequest]
    trivial
  · rw [hrequest]
    trivial

theorem exists_recordOf_of_ends_recordsOf {events : List Event} {d : Delivery}
    (h : (recordsOf adapter inquiry events).run.Ends exchanges (.ok d)) {event : Event}
    (hevent : event ∈ events) :
    ∃ answer, ⟨.recordOf adapter inquiry event, answer⟩ ∈ exchanges := by
  induction events generalizing exchanges d with
  | nil => cases hevent
  | cons first rest ih =>
    obtain ⟨r, more, more', rfl, hrest, heq⟩ | ⟨e, reason, more, more', -, rfl, hrest, heq⟩ |
      ⟨e, -, -, heq⟩ := ends_recordsOf_cons_iff.1 h
    · obtain _ | d' := more'
      · cases heq
      rcases List.mem_cons.1 hevent with rfl | hevent
      · exact ⟨_, List.mem_cons_self⟩
      · obtain ⟨answer, hmem⟩ := ih hrest hevent
        exact ⟨answer, List.mem_cons_of_mem _ hmem⟩
    · obtain _ | d' := more'
      · cases heq
      rcases List.mem_cons.1 hevent with rfl | hevent
      · exact ⟨_, List.mem_cons_self⟩
      · obtain ⟨answer, hmem⟩ := ih hrest hevent
        exact ⟨answer, List.mem_cons_of_mem _ (List.mem_cons_of_mem _ hmem)⟩
    · cases heq

theorem mem_records_of_ends_recordsOf {events : List Event} {d : Delivery}
    (h : (recordsOf adapter inquiry events).run.Ends exchanges (.ok d))
    {adapter' : AdapterRef} {inquiry' : Inquiry} {event : Event} {r : ActivityRecord}
    (hr : ⟨.recordOf adapter' inquiry' event, .ok r⟩ ∈ exchanges) : r ∈ d.records := by
  induction events generalizing exchanges d with
  | nil =>
    obtain ⟨rfl, -⟩ := ends_run_pure_iff.1 h
    cases hr
  | cons first rest ih =>
    obtain ⟨r', more, more', rfl, hrest, heq⟩ | ⟨e, reason, more, more', -, rfl, hrest, heq⟩ |
      ⟨e, -, -, heq⟩ := ends_recordsOf_cons_iff.1 h
    · obtain _ | d' := more'
      · cases heq
      cases heq
      rcases List.mem_cons.1 hr with heq | hr
      · cases heq
        exact List.mem_cons_self
      · exact List.mem_cons_of_mem _ (ih hrest hr)
    · obtain _ | d' := more'
      · cases heq
      cases heq
      have hmore : ⟨.recordOf adapter' inquiry' event, .ok r⟩ ∈ more := by
        simpa [skipReport] using hr
      exact ih (d := d') hrest hmore
    · cases heq

/-- A delivery as it is made of events, of which each is answered once: the records are those in the
answers, in the order of the events, and the events without one are only counted. -/
def Sifts (Made : Event → Fallible ActivityRecord → Prop) (events : List Event) (d : Delivery) :
    Prop :=
  ∃ answers, List.Forall₂ Made events answers ∧ d.records = answers.filterMap (·.toOption) ∧
    d.skipped = answers.countP (·.toOption.isNone)

theorem Sifts.mono {Made Made' : Event → Fallible ActivityRecord → Prop} {events : List Event}
    {d : Delivery} (h : Sifts Made events d) (himp : ∀ event answer, Made event answer →
      Made' event answer) : Sifts Made' events d := by
  obtain ⟨answers, hmade, hrecords, hskipped⟩ := h
  exact ⟨answers, hmade.imp himp, hrecords, hskipped⟩

/-- Every record is the answer for one of the events. -/
theorem Sifts.exists_event {Made : Event → Fallible ActivityRecord → Prop} {events : List Event}
    {d : Delivery} (h : Sifts Made events d) {r : ActivityRecord} (hr : r ∈ d.records) :
    ∃ event ∈ events, Made event (.ok r) := by
  obtain ⟨answers, hmade, hrecords, -⟩ := h
  rw [hrecords] at hr
  obtain ⟨answer, hanswer, hok⟩ := List.mem_filterMap.1 hr
  obtain rfl : answer = .ok r := by
    cases answer with
    | error e => cases hok
    | ok r' => exact congrArg Except.ok (Option.some.inj hok)
  obtain ⟨⟨i, hi⟩, hget⟩ := List.mem_iff_get.1 hanswer
  have hi' : i < events.length := by rwa [hmade.length_eq]
  have hevent := hmade.get hi' hi
  rw [hget] at hevent
  exact ⟨_, List.get_mem _ _, hevent⟩

/-- Every event was answered, and its record, if it was given one, is among those kept. -/
theorem Sifts.exists_answer {Made : Event → Fallible ActivityRecord → Prop} {events : List Event}
    {d : Delivery} (h : Sifts Made events d) {event : Event} (hevent : event ∈ events) :
    ∃ answer, Made event answer ∧ ∀ r, answer = .ok r → r ∈ d.records := by
  obtain ⟨answers, hmade, hrecords, -⟩ := h
  obtain ⟨⟨i, hi⟩, rfl⟩ := List.mem_iff_get.1 hevent
  have hi' : i < answers.length := by rwa [← hmade.length_eq]
  refine ⟨_, hmade.get hi hi', fun r hr => ?_⟩
  rw [hrecords]
  exact List.mem_filterMap.2 ⟨_, List.get_mem _ _, congrArg Except.toOption hr⟩

theorem sifts_of_ends_recordsOf {events : List Event} {d : Delivery}
    (h : (recordsOf adapter inquiry events).run.Ends exchanges (.ok d)) :
    Sifts (fun event answer => ⟨.recordOf adapter inquiry event, answer⟩ ∈ exchanges) events d := by
  induction events generalizing exchanges d with
  | nil =>
    cases (ends_run_pure_iff.1 h).2
    exact ⟨[], .nil, rfl, rfl⟩
  | cons event rest ih =>
    obtain ⟨r, more, more', rfl, hrest, heq⟩ | ⟨e, reason, more, more', -, rfl, hrest, heq⟩ |
      ⟨e, -, -, heq⟩ := ends_recordsOf_cons_iff.1 h
    · obtain _ | d' := more'
      · cases heq
      cases heq
      obtain ⟨answers, hmade, hrecords, hskipped⟩ :=
        (ih hrest).mono fun _ _ hmem => List.mem_cons_of_mem _ hmem
      exact ⟨.ok r :: answers, .cons List.mem_cons_self hmade, congrArg (r :: ·) hrecords, hskipped⟩
    · obtain _ | d' := more'
      · cases heq
      cases heq
      obtain ⟨answers, hmade, hrecords, hskipped⟩ :=
        (ih hrest).mono fun _ _ hmem => List.mem_cons_of_mem _ (List.mem_cons_of_mem _ hmem)
      refine ⟨.error e :: answers, .cons List.mem_cons_self hmade, hrecords, ?_⟩
      exact (congrArg (· + 1) hskipped).trans (List.countP_cons_of_pos rfl).symm
    · cases heq

/-- What ends all is the answer for one of the events, and no reason to leave that event out. -/
theorem exists_recordOf_of_ends_recordsOf_error {events : List Event} {e : Failure}
    (h : (recordsOf adapter inquiry events).run.Ends exchanges (.error e)) :
    e.skipReason? = none ∧ ∃ event, ⟨.recordOf adapter inquiry event, .error e⟩ ∈ exchanges := by
  induction events generalizing exchanges with
  | nil =>
    obtain ⟨-, heq⟩ := ends_run_pure_iff.1 h
    cases heq
  | cons event rest ih =>
    obtain ⟨r, more, d, rfl, hrest, heq⟩ | ⟨e', reason, more, d, -, rfl, hrest, heq⟩ |
      ⟨e', hskip, rfl, heq⟩ := ends_recordsOf_cons_iff.1 h
    · cases d with
      | ok d => cases heq
      | error e' =>
        cases heq
        obtain ⟨hskip, event', hmem⟩ := ih hrest
        exact ⟨hskip, event', List.mem_cons_of_mem _ hmem⟩
    · cases d with
      | ok d => cases heq
      | error e' =>
        cases heq
        obtain ⟨hskip, event', hmem⟩ := ih hrest
        exact ⟨hskip, event', List.mem_cons_of_mem _ (List.mem_cons_of_mem _ hmem)⟩
    · cases heq
      exact ⟨hskip, event, List.mem_cons_self⟩

theorem ends_addBatch_iff {batch : List ActivityRecord} {b : Fallible Unit} :
    (addBatch batch).run.Ends exchanges b ↔
      (batch.isEmpty ∧ exchanges = [] ∧ b = .ok ()) ∨
      (batch.isEmpty = false ∧ ∃ a : Except TableFailure Unit,
        exchanges = [⟨.addRecords batch, a⟩] ∧ b = a.mapError TableFailure.toFailure) := by
  unfold addBatch
  cases batch.isEmpty with
  | true =>
    refine Iff.trans ends_run_pure_iff ?_
    simp
  | false =>
    refine Iff.trans Work.ends_fromTable_iff ?_
    refine Iff.trans (exists_congr fun a => and_congr_left' Work.ends_call_iff) ?_
    simp

/-- The exchange by which a batch is stored; an empty one needs none. -/
def storing (batch : List ActivityRecord) : List (Exchange surroundings) :=
  if batch.isEmpty then [] else [⟨.addRecords batch, .ok ()⟩]

theorem ends_addBatch_ok_iff {batch : List ActivityRecord} :
    (addBatch batch).run.Ends exchanges (.ok ()) ↔ exchanges = storing batch := by
  rw [ends_addBatch_iff, storing]
  cases batch.isEmpty with
  | true => simp
  | false =>
    constructor
    · rintro (⟨hempty, -⟩ | ⟨-, a, rfl, heq⟩)
      · cases hempty
      · cases a with
        | ok => rfl
        | error e => cases heq
    · rintro rfl
      exact .inr ⟨rfl, .ok (), rfl, rfl⟩

variable {router : Router}

private theorem ends_sift_iff {events : List Event} {b : Fallible Delivery} :
    (do
        let delivery ← recordsOf adapter inquiry events
        addBatch delivery.records
        return delivery : Crawl Delivery).run.Ends exchanges b ↔
      (∃ d sifting rest stored, exchanges = sifting ++ rest ∧
        (recordsOf adapter inquiry events).run.Ends sifting (.ok d) ∧
        (addBatch d.records).run.Ends rest stored ∧ b = stored.map fun _ => d) ∨
      ∃ e, (recordsOf adapter inquiry events).run.Ends exchanges (.error e) ∧ b = .error e := by
  rw [ends_run_bind_iff]
  refine or_congr_left ?_
  constructor
  · rintro ⟨d, sifting, rest, rfl, hsifting, hrest⟩
    obtain ⟨stored, hstored, rfl⟩ := ends_run_bind_pure_iff.1 hrest
    exact ⟨d, sifting, rest, stored, rfl, hsifting, hstored, rfl⟩
  · rintro ⟨d, sifting, rest, stored, rfl, hsifting, hstored, rfl⟩
    exact ⟨d, sifting, rest, rfl, hsifting, ends_run_bind_pure_iff.2 ⟨stored, hstored, rfl⟩⟩

/-- A delivery has no adapter, or cannot fetch, or stores what became of the fetched events. -/
theorem ends_deliver_iff {b : Fallible Delivery} :
    (router.deliver inquiry).run.Ends exchanges b ↔
      (∃ e, router.adapterOf inquiry = .error e ∧ exchanges = [] ∧ b = .error e) ∨
      ∃ adapter, router.adapterOf inquiry = .ok adapter ∧
        ((∃ e, exchanges = [⟨.fetch adapter inquiry, .error e⟩] ∧ b = .error e) ∨
        ∃ events more, exchanges = ⟨.fetch adapter inquiry, .ok events⟩ :: more ∧
          ((∃ d sifting rest stored, more = sifting ++ rest ∧
            (recordsOf adapter inquiry events).run.Ends sifting (.ok d) ∧
            (addBatch d.records).run.Ends rest stored ∧ b = stored.map fun _ => d) ∨
          ∃ e, (recordsOf adapter inquiry events).run.Ends more (.error e) ∧ b = .error e)) := by
  unfold deliver
  rw [ends_run_bind_iff]
  constructor
  · rintro (⟨adapter, first, more, rfl, hfirst, hmore⟩ | ⟨e, hfirst, rfl⟩)
    · obtain ⟨rfl, hadapter⟩ := ends_run_mk_pure_iff.1 hfirst
      refine .inr ⟨adapter, hadapter.symm, ?_⟩
      obtain ⟨events, fetching, rest, rfl, hfetch, hrest⟩ | ⟨e, hfetch, rfl⟩ :=
        ends_run_bind_iff.1 hmore
      · obtain rfl := Work.ends_call_iff.1 hfetch
        exact .inr ⟨events, rest, rfl, ends_sift_iff.1 hrest⟩
      · obtain rfl := Work.ends_call_iff.1 hfetch
        exact .inl ⟨e, rfl, rfl⟩
    · obtain ⟨rfl, hadapter⟩ := ends_run_mk_pure_iff.1 hfirst
      exact .inl ⟨e, hadapter.symm, rfl, rfl⟩
  · rintro (⟨e, hadapter, rfl, rfl⟩ |
      ⟨adapter, hadapter, ⟨e, rfl, rfl⟩ | ⟨events, more, rfl, hmore⟩⟩)
    · exact .inr ⟨e, ends_run_mk_pure_iff.2 ⟨rfl, hadapter.symm⟩, rfl⟩
    · refine .inl ⟨adapter, [], _, rfl, ends_run_mk_pure_iff.2 ⟨rfl, hadapter.symm⟩, ?_⟩
      exact ends_run_bind_iff.2 (.inr ⟨e, Work.ends_call_iff.2 rfl, rfl⟩)
    · refine .inl ⟨adapter, [], _, rfl, ends_run_mk_pure_iff.2 ⟨rfl, hadapter.symm⟩, ?_⟩
      exact ends_run_bind_iff.2
        (.inl ⟨events, [_], more, rfl, Work.ends_call_iff.2 rfl, ends_sift_iff.2 hmore⟩)

/-- The exchanges of a delivery that succeeds: the events are fetched, a record is asked for of
each, and the records are stored. -/
theorem ends_deliver_ok_iff {d : Delivery} :
    (router.deliver inquiry).run.Ends exchanges (.ok d) ↔
      ∃ adapter events sifting, router.adapterOf inquiry = .ok adapter ∧
        (recordsOf adapter inquiry events).run.Ends sifting (.ok d) ∧
        exchanges = ⟨.fetch adapter inquiry, .ok events⟩ :: (sifting ++ storing d.records) := by
  rw [ends_deliver_iff]
  constructor
  · rintro (⟨e, -, -, heq⟩ | ⟨adapter, hadapter, ⟨e, -, heq⟩ | ⟨events, more, rfl, hmore⟩⟩)
    · cases heq
    · cases heq
    · obtain ⟨d', sifting, rest, stored, rfl, hsifting, hstored, heq⟩ | ⟨e, -, heq⟩ := hmore
      · cases stored with
        | error e => cases heq
        | ok =>
          cases heq
          obtain rfl := ends_addBatch_ok_iff.1 hstored
          exact ⟨adapter, events, sifting, hadapter, hsifting, rfl⟩
      · cases heq
  · rintro ⟨adapter, events, sifting, hadapter, hsifting, rfl⟩
    exact .inr ⟨adapter, hadapter, .inr ⟨events, _, rfl, .inl ⟨d, sifting, _, .ok (), rfl, hsifting,
      ends_addBatch_ok_iff.2 rfl, rfl⟩⟩⟩

/-- What fails a served delivery is a call that failed: the fetch, or an event in a way that
concerns more than the event, or the batch. -/
theorem failed_call_of_ends_deliver {e : Failure}
    (h : (router.deliver inquiry).run.Ends exchanges (.error e))
    (hadapter : router.adapterOf inquiry = .ok adapter) :
    ⟨.fetch adapter inquiry, .error e⟩ ∈ exchanges ∨
      (e.skipReason? = none ∧ ∃ event, ⟨.recordOf adapter inquiry event, .error e⟩ ∈ exchanges) ∨
      ∃ (batch : List ActivityRecord) (f : TableFailure),
        ⟨.addRecords batch, .error f⟩ ∈ exchanges ∧ e = f.toFailure := by
  obtain ⟨e', hmissing, -⟩ | ⟨adapter', hadapter', ⟨e', rfl, heq⟩ | ⟨events, more, rfl, hmore⟩⟩ :=
    ends_deliver_iff.1 h
  · cases hadapter.symm.trans hmissing
  · cases heq
    obtain rfl : adapter = adapter' := Except.ok.inj (hadapter.symm.trans hadapter')
    exact .inl List.mem_cons_self
  · obtain rfl : adapter = adapter' := Except.ok.inj (hadapter.symm.trans hadapter')
    obtain ⟨d, sifting, rest, stored, rfl, -, hstored, heq⟩ | ⟨e', hsifting, heq⟩ := hmore
    · obtain ⟨-, -, rfl⟩ | ⟨-, answer, rfl, rfl⟩ := ends_addBatch_iff.1 hstored
      · cases heq
      · cases answer with
        | ok => cases heq
        | error f =>
          cases heq
          exact .inr (.inr ⟨d.records, f, by simp, rfl⟩)
    · cases heq
      obtain ⟨hskip, event, hmem⟩ := exists_recordOf_of_ends_recordsOf_error hsifting
      exact .inr (.inl ⟨hskip, event, List.mem_cons_of_mem _ hmem⟩)

/-- A delivery that fails has read only, or its batch was refused. -/
theorem ends_deliver_error {e : Failure}
    (h : (router.deliver inquiry).run.Ends exchanges (.error e)) :
    ∃ reading refused, exchanges = reading ++ refused ∧ (∀ x ∈ reading, IsReading x.1) ∧
      (refused = [] ∨ ∃ batch f, refused = [⟨.addRecords batch, .error f⟩] ∧
        e = TableFailure.toFailure f) := by
  have hfetch (adapter : AdapterRef) : IsReading (.fetch adapter inquiry) := trivial
  obtain ⟨e', -, rfl, -⟩ | ⟨adapter, -, ⟨e', rfl, -⟩ | ⟨events, more, rfl, hmore⟩⟩ :=
    ends_deliver_iff.1 h
  · exact ⟨[], [], rfl, by simp, .inl rfl⟩
  · exact ⟨_, [], (List.append_nil _).symm, by simpa using hfetch adapter, .inl rfl⟩
  · obtain ⟨d, sifting, rest, stored, rfl, hsifting, hstored, heq⟩ | ⟨e', hsifting, -⟩ := hmore
    · refine ⟨⟨.fetch adapter inquiry, .ok events⟩ :: sifting, rest, rfl, ?_, ?_⟩
      · simpa [hfetch] using isReading_of_ends_recordsOf hsifting
      · obtain ⟨-, -, rfl⟩ | ⟨-, a, rfl, rfl⟩ := ends_addBatch_iff.1 hstored
        · cases heq
        · cases a with
          | ok => cases heq
          | error f =>
            cases heq
            exact .inr ⟨d.records, f, rfl, rfl⟩
    · refine ⟨_, [], (List.append_nil _).symm, ?_, .inl rfl⟩
      simpa [hfetch] using isReading_of_ends_recordsOf hsifting

/-- A delivery reads, and hands over batches of records; it asks for no height and saves no
cursor. -/
theorem request_of_ends_deliver {b : Fallible Delivery}
    (h : (router.deliver inquiry).run.Ends exchanges b) :
    ∀ x ∈ exchanges, IsReading x.1 ∨ ∃ batch, x.1 = .addRecords batch := by
  cases b with
  | ok d =>
    obtain ⟨adapter, events, sifting, -, hsifting, rfl⟩ := ends_deliver_ok_iff.1 h
    intro x hx
    obtain rfl | hx := List.mem_cons.1 hx
    · exact .inl trivial
    · obtain hx | hx := List.mem_append.1 hx
      · exact .inl (isReading_of_ends_recordsOf hsifting x hx)
      · unfold storing at hx
        split at hx
        · cases hx
        · obtain rfl := List.mem_singleton.1 hx
          exact .inr ⟨_, rfl⟩
  | error e =>
    obtain ⟨reading, refused, rfl, hreading, hrefused⟩ := ends_deliver_error h
    intro x hx
    obtain hx | hx := List.mem_append.1 hx
    · exact .inl (hreading x hx)
    · obtain rfl | ⟨batch, f, rfl, -⟩ := hrefused
      · cases hx
      · obtain rfl := List.mem_singleton.1 hx
        exact .inr ⟨_, rfl⟩

/-- A delivery puts no inquiry to an adapter but its own. -/
theorem eq_of_inquiry? {b : Fallible Delivery} (h : (router.deliver inquiry).run.Ends exchanges b)
    {e : Exchange surroundings} (he : e ∈ exchanges) {p : Inquiry} (hp : e.1.inquiry? = some p) :
    p = inquiry := by
  have hsifted {adapter : AdapterRef} {events : List Event} {b : Fallible Delivery}
      {sifting : List (Exchange surroundings)}
      (hsifting : (recordsOf adapter inquiry events).run.Ends sifting b) (hmem : e ∈ sifting) :
      p = inquiry := by
    obtain ⟨event, hrequest⟩ | ⟨entry, hrequest⟩ := request_of_ends_recordsOf hsifting e hmem
    · rw [hrequest] at hp
      exact (Option.some.inj hp).symm
    · rw [hrequest] at hp
      cases hp
  obtain ⟨f, -, rfl, -⟩ | ⟨adapter, -, ⟨f, rfl, -⟩ | ⟨events, more, rfl, hmore⟩⟩ :=
    ends_deliver_iff.1 h
  · cases he
  · obtain rfl := List.mem_singleton.1 he
    exact (Option.some.inj hp).symm
  · obtain rfl | he := List.mem_cons.1 he
    · exact (Option.some.inj hp).symm
    obtain ⟨d, sifting, rest, stored, rfl, hsifting, hstored, -⟩ | ⟨f, hsifting, -⟩ := hmore
    · obtain he | he := List.mem_append.1 he
      · exact hsifted hsifting he
      · obtain ⟨-, rfl, -⟩ | ⟨-, answer, rfl, -⟩ := ends_addBatch_iff.1 hstored
        · cases he
        · obtain rfl := List.mem_singleton.1 he
          cases hp
    · exact hsifted hsifting he

/-- A delivery that succeeds fetches once. -/
theorem fetchedWindows_of_ends_deliver_ok {d : Delivery}
    (h : (router.deliver inquiry).run.Ends exchanges (.ok d)) :
    exchanges.filterMap fetchedWindow? = inquiry.window.toList := by
  obtain ⟨adapter', events, sifting, -, hsifting, rfl⟩ := ends_deliver_ok_iff.1 h
  have hsifted : sifting.filterMap fetchedWindow? = [] := by
    refine List.filterMap_eq_nil_iff.2 ?_
    rintro ⟨r, answer⟩ he
    obtain ⟨event, hrequest⟩ | ⟨entry, hrequest⟩ := request_of_ends_recordsOf hsifting _ he
    · dsimp only at hrequest
      subst hrequest
      rfl
    · dsimp only at hrequest
      subst hrequest
      rfl
  have hstored : (storing d.records).filterMap fetchedWindow? = [] := by
    unfold storing
    split
    · rfl
    · rfl
  have hfetch : fetchedWindow? ⟨.fetch adapter' inquiry, .ok events⟩ = inquiry.window := rfl
  rw [List.filterMap_cons, hfetch, List.filterMap_append, hsifted, hstored]
  cases inquiry.window <;> simp

/-- A delivery has nothing to do with the visits. -/
theorem sparesVisits_of_ends_deliver {b : Fallible Delivery}
    (h : (router.deliver inquiry).run.Ends exchanges b) : ∀ x ∈ exchanges, SparesVisits x.1 := by
  rintro ⟨r, answer⟩ hx
  obtain hread | ⟨batch, hbatch⟩ := request_of_ends_deliver h _ hx
  · cases r with
    | fetch | recordOf | log => trivial
    | _ => exact hread.elim
  · dsimp only at hbatch
    subst hbatch
    trivial

theorem savesNothing_of_ends_deliver {b : Fallible Delivery}
    (h : (router.deliver inquiry).run.Ends exchanges b) : SavesNothing exchanges := by
  intro e he c heq
  rcases request_of_ends_deliver h e he with hread | ⟨batch, hbatch⟩
  · rw [heq] at hread
    exact hread
  · rw [heq] at hbatch
    cases hbatch

theorem records_of_isReading (h : ∀ x ∈ exchanges, IsReading x.1) (t : Tables) :
    (t.run exchanges).records = t.records := by
  refine Tables.records_run fun x hx batch heq => ?_
  have hread := h x hx
  rw [heq] at hread
  exact hread

theorem records_run_storing (t : Tables) (batch : List ActivityRecord) :
    (t.run (storing batch)).records = t.records.addBatch batch := by
  unfold storing
  cases batch with
  | nil => rfl
  | cons r rest => rfl

/-- A delivery that succeeds has stored its records on top of those before. -/
theorem records_of_ends_deliver_ok {d : Delivery}
    (h : (router.deliver inquiry).run.Ends exchanges (.ok d)) (t : Tables) :
    (t.run exchanges).records = t.records.addBatch d.records := by
  obtain ⟨adapter, events, sifting, -, hsifting, rfl⟩ := ends_deliver_ok_iff.1 h
  have hfetch : IsReading (.fetch adapter inquiry) := trivial
  rw [← List.cons_append, Tables.run_append, records_run_storing, records_of_isReading]
  simpa [hfetch] using isReading_of_ends_recordsOf hsifting

/-- A delivery that fails leaves the records as they were. -/
theorem records_of_ends_deliver_error {e : Failure}
    (h : (router.deliver inquiry).run.Ends exchanges (.error e)) (t : Tables) :
    (t.run exchanges).records = t.records := by
  obtain ⟨reading, refused, rfl, hreading, hrefused⟩ := ends_deliver_error h
  rw [Tables.run_append]
  obtain rfl | ⟨batch, f, rfl, -⟩ := hrefused
  · exact records_of_isReading hreading t
  · exact records_of_isReading hreading t

/-- Every record that a successful delivery was given is among those that it stored. -/
theorem mem_records_of_ends_deliver {d : Delivery}
    (h : (router.deliver inquiry).run.Ends exchanges (.ok d))
    {adapter' : AdapterRef} {inquiry' : Inquiry} {event : Event} {r : ActivityRecord}
    (hr : ⟨.recordOf adapter' inquiry' event, .ok r⟩ ∈ exchanges) : r ∈ d.records := by
  obtain ⟨adapter, events, sifting, -, hsifting, rfl⟩ := ends_deliver_ok_iff.1 h
  have hmem : ⟨.recordOf adapter' inquiry' event, .ok r⟩ ∈ sifting := by
    obtain heq | hr := List.mem_cons.1 hr
    · cases heq
    · obtain hr | hr := List.mem_append.1 hr
      · exact hr
      · unfold storing at hr
        split at hr
        · cases hr
        · cases List.mem_singleton.1 hr
  exact mem_records_of_ends_recordsOf hsifting hmem

/-- What is remembered of an inquiry is its visit, at the time of the clock. -/
theorem ends_touch_iff {b : Fallible Unit} :
    (VisitQueue.touch inquiry).run.Ends exchanges b ↔
      ∃ (instant : Time.Instant) (answer : Except TableFailure Unit),
        exchanges = [⟨.now, instant⟩, ⟨.upsertVisit inquiry.member instant.seconds, answer⟩] ∧
        b = answer.mapError TableFailure.toFailure := by
  unfold VisitQueue.touch
  rw [Work.ends_run_ask_bind_iff]
  constructor
  · rintro ⟨instant, rest, rfl, hrest⟩
    obtain ⟨answer, hcall, rfl⟩ := Work.ends_fromTable_iff.1 hrest
    obtain rfl := Work.ends_call_iff.1 hcall
    exact ⟨instant, answer, rfl, rfl⟩
  · rintro ⟨instant, answer, rfl, rfl⟩
    exact ⟨instant, _, rfl, Work.ends_fromTable_iff.2 ⟨answer, Work.ends_call_iff.2 rfl, rfl⟩⟩

/-- Where there is a queue, the visit is handed to it, and that it was not taken is only
reported. -/
theorem ends_rememberVisit_iff {u : Unit} :
    (router.rememberVisit inquiry).Ends exchanges u ↔
      (router.queue = none ∧ exchanges = []) ∨
      ∃ (q : VisitQueue) (instant : Time.Instant), router.queue = some q ∧
        (exchanges = [⟨.now, instant⟩, ⟨.upsertVisit inquiry.member instant.seconds, .ok ()⟩] ∨
        ∃ e : TableFailure,
          exchanges = [⟨.now, instant⟩, ⟨.upsertVisit inquiry.member instant.seconds, .error e⟩,
            ⟨.log ⟨.warn, "Failed to record visit", [("network", inquiry.network.name),
              ("identity", inquiry.identity), ("error", e.toFailure.text)]⟩, ()⟩]) := by
  unfold rememberVisit
  cases router.queue with
  | none =>
    refine ends_done_iff.trans ?_
    simp
  | some q =>
    refine Iff.trans ends_bind_iff ?_
    constructor
    · rintro ⟨result, first, rest, rfl, hfirst, hrest⟩
      obtain ⟨instant, answer, rfl, rfl⟩ := ends_touch_iff.1 hfirst
      refine .inr ⟨q, instant, rfl, ?_⟩
      cases answer with
      | ok =>
        obtain ⟨rfl, -⟩ := ends_done_iff.1 hrest
        exact .inl rfl
      | error e =>
        obtain rfl := Work.ends_report_iff.1 hrest
        exact .inr ⟨e, rfl⟩
    · rintro (⟨hnone, -⟩ | ⟨q', instant, -, rfl | ⟨e, rfl⟩⟩)
      · cases hnone
      · exact ⟨.ok (), _, [], rfl, ends_touch_iff.2 ⟨instant, .ok (), rfl, rfl⟩, .nil _⟩
      · exact ⟨.error e.toFailure, [_, _], [_], rfl,
          ends_touch_iff.2 ⟨instant, .error e, rfl, rfl⟩, Work.ends_report_iff.2 rfl⟩

/-- An inquiry on demand is refused, or it is remembered and then delivered. -/
theorem ends_onDemand_iff {b : Fallible Delivery} :
    (router.onDemand inquiry).run.Ends exchanges b ↔
      (∃ e, router.adapterOf inquiry = .error e ∧ exchanges = [] ∧ b = .error e) ∨
      ∃ adapter remembering delivering, router.adapterOf inquiry = .ok adapter ∧
        exchanges = remembering ++ delivering ∧
        (router.rememberVisit inquiry).Ends remembering () ∧
        (router.deliver inquiry).run.Ends delivering b := by
  unfold onDemand
  rw [ends_run_bind_iff]
  constructor
  · rintro (⟨adapter, first, rest, rfl, hfirst, hrest⟩ | ⟨e, hfirst, rfl⟩)
    · obtain ⟨rfl, hadapter⟩ := ends_run_mk_pure_iff.1 hfirst
      obtain ⟨u, remembering, delivering, rfl, hremembering, hdelivering⟩ | ⟨e, hremembering, -⟩ :=
        ends_run_bind_iff.1 hrest
      · obtain ⟨_, hremembering, -⟩ := Work.ends_lift_iff.1 hremembering
        exact .inr ⟨adapter, remembering, delivering, hadapter.symm, rfl, hremembering, hdelivering⟩
      · obtain ⟨_, -, heq⟩ := Work.ends_lift_iff.1 hremembering
        cases heq
    · obtain ⟨rfl, hadapter⟩ := ends_run_mk_pure_iff.1 hfirst
      exact .inl ⟨e, hadapter.symm, rfl, rfl⟩
  · rintro (⟨e, hadapter, rfl, rfl⟩ |
      ⟨adapter, remembering, delivering, hadapter, rfl, hremembering, hdelivering⟩)
    · exact .inr ⟨e, ends_run_mk_pure_iff.2 ⟨rfl, hadapter.symm⟩, rfl⟩
    · refine .inl ⟨adapter, [], _, rfl, ends_run_mk_pure_iff.2 ⟨rfl, hadapter.symm⟩, ?_⟩
      exact ends_run_bind_iff.2 (.inl ⟨(), remembering, delivering, rfl,
        Work.ends_lift_iff.2 ⟨(), hremembering, rfl⟩, hdelivering⟩)

/-- A router with one adapter, and no queue. -/
def sample : Router where
  adapters := AdapterTable.add {} .ethereum none ⟨0, "sample"⟩
  queue := none

def sampleRecord : ActivityRecord :=
  .of .note .ethereum "0x1-2" "0xab" "sample" .epoch

end Router

end ChainCrawl
