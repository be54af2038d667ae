import ChainCrawl.Proofs.Delivery.Router

namespace ChainCrawl

open Proc

namespace Router

/-- The adapter is the one set for the platform of the inquiry, or, where there is none, the one set
for its network. -/
def Finds (router : Router) (inquiry : Inquiry) (adapter : AdapterRef) : Prop :=
  router.adapters.entry? inquiry.network inquiry.platform = some adapter ∨
    router.adapters.entry? inquiry.network inquiry.platform = none ∧
      router.adapters.entry? inquiry.network none = some adapter

variable {router : Router} {inquiry : Inquiry} {adapter : AdapterRef}
  {exchanges : List (Exchange surroundings)}

theorem adapterOf_eq_ok_iff : router.adapterOf inquiry = .ok adapter ↔
    router.Finds inquiry adapter := by
  unfold adapterOf AdapterTable.select Finds
  cases router.adapters.entry? inquiry.network inquiry.platform with
  | none => cases router.adapters.entry? inquiry.network none <;> simp
  | some exact => simp

/-- The failure that the answer for an event is to its whole batch. One that concerns the event
alone is none. -/
def batchFailure? : Fallible ActivityRecord → Option Failure
  | .ok _ | .error (.malformed _) | .error (.decode _) => none
  | .error e => some e

/-- The records that were made of events, and the number of events of which none was made. -/
def deliveryOf (made : List (Fallible ActivityRecord)) : Delivery where
  records := made.filterMap (·.toOption)
  skipped := made.countP (·.toOption.isNone)

theorem deliveryOf_cons_ok (r : ActivityRecord) (made : List (Fallible ActivityRecord)) :
    deliveryOf (.ok r :: made) = ⟨r :: (deliveryOf made).records, (deliveryOf made).skipped⟩ := rfl

theorem deliveryOf_cons_error (e : Failure) (made : List (Fallible ActivityRecord)) :
    deliveryOf (.error e :: made) = ⟨(deliveryOf made).records, (deliveryOf made).skipped + 1⟩ := by
  unfold deliveryOf
  rw [List.countP_cons_of_pos rfl]
  rfl

/-- Each event has its record, or is counted. -/
theorem length_deliveryOf (made : List (Fallible ActivityRecord)) :
    (deliveryOf made).records.length + (deliveryOf made).skipped = made.length := by
  induction made with
  | nil => rfl
  | cons answer rest ih =>
    cases answer with
    | ok r =>
      rw [deliveryOf_cons_ok, List.length_cons, List.length_cons, Nat.succ_add, ih]
    | error e =>
      rw [deliveryOf_cons_error, List.length_cons, ← ih, Nat.add_assoc]

/-- What events come to whose answers are these. -/
def batchOf (made : List (Fallible ActivityRecord)) : Fallible Delivery :=
  match made.findSome? batchFailure? with
  | none => .ok (deliveryOf made)
  | some e => .error e

theorem batchOf_eq_error_iff {made : List (Fallible ActivityRecord)} {e : Failure} :
    batchOf made = .error e ↔ made.findSome? batchFailure? = some e := by
  unfold batchOf
  cases made.findSome? batchFailure? <;> simp

theorem batchOf_eq_ok_iff {made : List (Fallible ActivityRecord)} {d : Delivery} :
    batchOf made = .ok d ↔ made.findSome? batchFailure? = none ∧ d = deliveryOf made := by
  unfold batchOf
  cases made.findSome? batchFailure? <;> simp [eq_comm]

theorem batchFailure?_error {e : Failure} :
    batchFailure? (.error e) = if e.skipReason?.isSome then none else some e := by
  cases e <;> rfl

theorem batchOf_cons_ok (r : ActivityRecord) (made : List (Fallible ActivityRecord)) :
    batchOf (.ok r :: made) = (batchOf made).map fun d => { d with records := r :: d.records } := by
  unfold batchOf
  rw [List.findSome?_cons_of_isNone rfl]
  cases made.findSome? batchFailure? with
  | none => rfl
  | some e => rfl

theorem batchOf_cons_skipped {e : Failure} {reason : String} (hskip : e.skipReason? = some reason)
    (made : List (Fallible ActivityRecord)) :
    batchOf (.error e :: made) =
      (batchOf made).map fun d => { d with skipped := d.skipped + 1 } := by
  have hfailure : batchFailure? (.error e) = none := by
    rw [batchFailure?_error, hskip]
    rfl
  unfold batchOf
  rw [List.findSome?_cons_of_isNone (Option.isNone_iff_eq_none.2 hfailure)]
  cases made.findSome? batchFailure? with
  | none => exact congrArg Except.ok (deliveryOf_cons_error e made)
  | some e => rfl

theorem batchOf_cons_failed {e : Failure} (hskip : e.skipReason? = none)
    (made : List (Fallible ActivityRecord)) : batchOf (.error e :: made) = .error e := by
  have hfailure : batchFailure? (.error e) = some e := by
    rw [batchFailure?_error, hskip]
    rfl
  rw [batchOf, List.findSome?_cons, hfailure]

/-- The answer that an exchange brings for an event. -/
def madeIn? : Exchange surroundings → Option (Fallible ActivityRecord)
  | ⟨.recordOf _ _ _, answer⟩ => some answer
  | _ => none

/-- The call of an adapter that an exchange makes. -/
def adapterCallIn? : Exchange surroundings → Option WorkRequest
  | ⟨.recordOf adapter p event, _⟩ => some (.recordOf adapter p event)
  | ⟨.fetch adapter p, _⟩ => some (.fetch adapter p)
  | _ => none

/-- The events are answered in turn, and their answers alone tell what comes of them. -/
theorem eq_batchOf_of_ends_recordsOf {events : List Event} {b : Fallible Delivery}
    {made : List (Fallible ActivityRecord)}
    (h : (recordsOf adapter inquiry events).run.Ends exchanges b)
    (hlength : made.length = events.length) (hmade : exchanges.filterMap madeIn? <+: made) :
    b = batchOf made := by
  induction events generalizing exchanges b made with
  | nil =>
    obtain ⟨rfl, rfl⟩ := ends_run_pure_iff.1 h
    obtain rfl := List.length_eq_zero_iff.1 hlength
    rfl
  | cons event rest ih =>
    obtain ⟨r, more, d, rfl, hrest, rfl⟩ | ⟨e, reason, more, d, hskip, rfl, hrest, rfl⟩ |
      ⟨e, hskip, rfl, rfl⟩ := ends_recordsOf_cons_iff.1 h
    · obtain ⟨later, rfl, hlater⟩ := List.cons_prefix_iff.1 hmade
      rw [batchOf_cons_ok, ih hrest (Nat.succ.inj hlength) hlater]
    · obtain ⟨later, rfl, hlater⟩ := List.cons_prefix_iff.1 hmade
      rw [batchOf_cons_skipped hskip, ih hrest (Nat.succ.inj hlength) hlater]
    · obtain ⟨later, rfl, -⟩ := List.cons_prefix_iff.1 hmade
      rw [batchOf_cons_failed hskip]

/-- The events are asked about in turn, each once, and all of them where the batch does not fail. -/
theorem calls_of_ends_recordsOf {events : List Event} {b : Fallible Delivery}
    (h : (recordsOf adapter inquiry events).run.Ends exchanges b) :
    exchanges.filterMap adapterCallIn? <+: events.map (.recordOf adapter inquiry) ∧
      ∀ d, b = .ok d →
        exchanges.filterMap adapterCallIn? = events.map (.recordOf adapter inquiry) := by
  induction events generalizing exchanges b with
  | nil =>
    obtain ⟨rfl, rfl⟩ := ends_run_pure_iff.1 h
    exact ⟨List.prefix_rfl, fun _ _ => rfl⟩
  | cons event rest ih =>
    have hturn (more : List (Exchange surroundings)) {d : Fallible Delivery}
        (add : Delivery → Delivery)
        (hrest : (recordsOf adapter inquiry rest).run.Ends more d) :
        WorkRequest.recordOf adapter inquiry event :: more.filterMap adapterCallIn? <+:
            (event :: rest).map (.recordOf adapter inquiry) ∧
          ∀ d', d.map add = .ok d' →
            WorkRequest.recordOf adapter inquiry event :: more.filterMap adapterCallIn? =
              (event :: rest).map (.recordOf adapter inquiry) := by
      obtain ⟨hpart, hall⟩ := ih hrest
      refine ⟨List.cons_prefix_cons.2 ⟨rfl, hpart⟩, fun d' hd' => ?_⟩
      cases d with
      | error e => cases hd'
      | ok d => exact congrArg (_ :: ·) (hall d rfl)
    obtain ⟨r, more, d, rfl, hrest, rfl⟩ | ⟨e, reason, more, d, hskip, rfl, hrest, rfl⟩ |
      ⟨e, hskip, rfl, rfl⟩ := ends_recordsOf_cons_iff.1 h
    · exact hturn more _ hrest
    · exact hturn more _ hrest
    · exact ⟨List.cons_prefix_cons.2 ⟨rfl, List.nil_prefix⟩, fun d' hd' => by cases hd'⟩

/-- However the events are to be answered, there is a run with these answers. -/
theorem exists_ends_recordsOf (adapter : AdapterRef) (inquiry : Inquiry) {events : List Event}
    {made : List (Fallible ActivityRecord)} (hlength : made.length = events.length) :
    ∃ exchanges, (recordsOf adapter inquiry events).run.Ends exchanges (batchOf made) ∧
      exchanges.filterMap madeIn? <+: made := by
  induction events generalizing made with
  | nil =>
    obtain rfl := List.length_eq_zero_iff.1 hlength
    exact ⟨[], ends_run_pure_iff.2 ⟨rfl, rfl⟩, List.prefix_rfl⟩
  | cons event rest ih =>
    obtain _ | ⟨answer, made⟩ := made
    · cases hlength
    obtain ⟨more, hrest, hmore⟩ := ih (Nat.succ.inj hlength)
    cases answer with
    | ok r =>
      refine ⟨_, ends_recordsOf_cons_iff.2 (.inl ⟨r, more, _, rfl, hrest,
        batchOf_cons_ok r made⟩), ?_⟩
      exact List.cons_prefix_iff.2 ⟨made, rfl, hmore⟩
    | error e =>
      cases hskip : e.skipReason? with
      | some reason =>
        refine ⟨_, ends_recordsOf_cons_iff.2 (.inr (.inl ⟨e, reason, more, _, hskip, rfl, hrest,
          batchOf_cons_skipped hskip made⟩)), ?_⟩
        exact List.cons_prefix_iff.2 ⟨made, rfl, hmore⟩
      | none =>
        refine ⟨_, ends_recordsOf_cons_iff.2 (.inr (.inr ⟨e, hskip, rfl,
          batchOf_cons_failed hskip made⟩)), ?_⟩
        exact List.cons_prefix_iff.2 ⟨made, rfl, List.nil_prefix⟩

end Router

open Router

/-- What is answered in a delivery. The same event may be answered in another way when it comes
again. -/
structure Replies where
  fetched : Fallible (List Event)
  /-- What is made of the fetched events, one by one. -/
  made : List (Fallible ActivityRecord)
  /-- What the records answer to a batch. -/
  stored : List ActivityRecord → Except TableFailure Unit
  length_made : ∀ {events}, fetched = .ok events → made.length = events.length

namespace Replies

/-- The exchanges are answered like this, as far as they go. -/
structure Given (s : Replies) (exchanges : List (Exchange surroundings)) : Prop where
  fetched : ∀ adapter p answer, ⟨.fetch adapter p, answer⟩ ∈ exchanges → answer = s.fetched
  made : exchanges.filterMap madeIn? <+: s.made
  stored : ∀ batch answer, ⟨.addRecords batch, answer⟩ ∈ exchanges → answer = s.stored batch

/-- What the events come to, if nothing stands in the way. -/
def delivery (s : Replies) : Delivery :=
  deliveryOf s.made

/-- The records take the batch. They are not asked about an empty one. -/
def Stores (s : Replies) : Prop :=
  s.delivery.records = [] ∨ s.stored s.delivery.records = .ok ()

/-- The failure to have a value, if it is one. -/
def failureOf {α : Type} : Fallible α → List Failure
  | .ok _ => []
  | .error e => [e]

/-- The answer to the batch, where the records are asked about it. -/
def taken (s : Replies) : Fallible Unit :=
  if s.delivery.records.isEmpty then .ok ()
  else (s.stored s.delivery.records).mapError TableFailure.toFailure

/-- All that stands in the way of a delivery, in the order in which it is met: that no adapter is
found, that nothing can be fetched, the events that fail the batch, and that the records do not take
it. -/
def failures (s : Replies) (router : Router) (inquiry : Inquiry) : List Failure :=
  failureOf (router.adapterOf inquiry) ++ failureOf s.fetched ++
    s.made.filterMap batchFailure? ++ failureOf s.taken

def outcome (s : Replies) (router : Router) (inquiry : Inquiry) : Fallible Delivery :=
  match (s.failures router inquiry).head? with
  | some e => .error e
  | none => .ok s.delivery

variable {s : Replies} {router : Router} {inquiry : Inquiry} {adapter : AdapterRef}
  {events : List Event} {exchanges : List (Exchange surroundings)} {b : Fallible Delivery}

theorem outcome_of_unserved {e : Failure} (h : router.adapterOf inquiry = .error e) :
    s.outcome router inquiry = .error e := by
  simp [outcome, failures, h, failureOf]

theorem outcome_of_unfetched {e : Failure} (hadapter : router.adapterOf inquiry = .ok adapter)
    (hfetched : s.fetched = .error e) : s.outcome router inquiry = .error e := by
  simp [outcome, failures, hadapter, hfetched, failureOf]

theorem outcome_of_failed {e : Failure} (hadapter : router.adapterOf inquiry = .ok adapter)
    (hfetched : s.fetched = .ok events) (hmade : batchOf s.made = .error e) :
    s.outcome router inquiry = .error e := by
  simp [outcome, failures, hadapter, hfetched, failureOf, batchOf_eq_error_iff.1 hmade]

theorem outcome_of_made (hadapter : router.adapterOf inquiry = .ok adapter)
    (hfetched : s.fetched = .ok events) (hmade : s.made.findSome? batchFailure? = none) :
    s.outcome router inquiry = s.taken.map fun _ => s.delivery := by
  simp only [outcome, failures, hadapter, hfetched, failureOf, List.nil_append, List.head?_append,
    List.head?_filterMap, hmade, Option.none_or]
  cases s.taken <;> rfl

/-- What is asked and answered up to its last call settles what a delivery comes to. -/
theorem eq_outcome_of_ends_deliver (h : (router.deliver inquiry).run.Ends exchanges b)
    (hgiven : s.Given exchanges) : b = s.outcome router inquiry := by
  obtain ⟨e, hadapter, rfl, rfl⟩ | ⟨adapter, hadapter, ⟨e, rfl, rfl⟩ |
    ⟨events, more, rfl, hmore⟩⟩ := ends_deliver_iff.1 h
  · exact (outcome_of_unserved hadapter).symm
  · have hfetched := hgiven.fetched adapter inquiry _ List.mem_cons_self
    exact (outcome_of_unfetched hadapter hfetched.symm).symm
  · have hfetched := (hgiven.fetched adapter inquiry _ List.mem_cons_self).symm
    have hlength := s.length_made hfetched
    have hmade : more.filterMap madeIn? <+: s.made := hgiven.made
    obtain ⟨d, sifting, rest, stored, rfl, hsifting, hstored, rfl⟩ | ⟨e, hsifting, rfl⟩ := hmore
    · rw [List.filterMap_append] at hmade
      have hbatch := eq_batchOf_of_ends_recordsOf hsifting hlength
        ((List.prefix_append _ _).trans hmade)
      obtain ⟨hnone, rfl⟩ := batchOf_eq_ok_iff.1 hbatch.symm
      rw [outcome_of_made hadapter hfetched hnone]
      refine congrArg (Except.map _ ·) ?_
      unfold taken
      obtain ⟨hempty, -, rfl⟩ | ⟨hbatch, answer, rfl, rfl⟩ := ends_addBatch_iff.1 hstored
      · exact (if_pos hempty).symm
      · rw [hgiven.stored (deliveryOf s.made).records answer (by simp)]
        exact (if_neg (Bool.eq_false_iff.1 hbatch)).symm
    · have hbatch := eq_batchOf_of_ends_recordsOf hsifting hlength hmade
      exact (outcome_of_failed hadapter hfetched hbatch.symm).symm

/-- Only the answers for events, and those of the fetch and of the records, have to be as given. -/
theorem given_of_ends_recordsOf {sifting rest : List (Exchange surroundings)}
    (hsifting : (recordsOf adapter inquiry events).run.Ends sifting b)
    (hmade : sifting.filterMap madeIn? <+: s.made)
    (hrest : ∀ x ∈ rest, ∃ batch, x = ⟨.addRecords batch, s.stored batch⟩) :
    s.Given (⟨.fetch adapter inquiry, s.fetched⟩ :: (sifting ++ rest)) where
  fetched := by
    intro adapter' p answer hx
    obtain heq | hx := List.mem_cons.1 hx
    · cases heq
      rfl
    obtain hx | hx := List.mem_append.1 hx
    · obtain ⟨event, hrequest⟩ | ⟨entry, hrequest⟩ := request_of_ends_recordsOf hsifting _ hx
      · cases hrequest
      · cases hrequest
    · obtain ⟨batch, heq⟩ := hrest _ hx
      cases heq
  made := by
    have hnone : rest.filterMap madeIn? = [] := by
      rw [List.filterMap_eq_nil_iff]
      intro x hx
      obtain ⟨batch, rfl⟩ := hrest x hx
      rfl
    change (sifting ++ rest).filterMap madeIn? <+: s.made
    rwa [List.filterMap_append, hnone, List.append_nil]
  stored := by
    intro batch answer hx
    obtain heq | hx := List.mem_cons.1 hx
    · cases heq
    obtain hx | hx := List.mem_append.1 hx
    · obtain ⟨event, hrequest⟩ | ⟨entry, hrequest⟩ := request_of_ends_recordsOf hsifting _ hx
      · cases hrequest
      · cases hrequest
    · obtain ⟨batch', heq⟩ := hrest _ hx
      cases heq
      rfl

/-- A batch is handed over with the answer that is given for it, or is empty. -/
theorem exists_ends_addBatch (s : Replies) (batch : List ActivityRecord) :
    ∃ rest stored, (addBatch batch).run.Ends rest stored ∧
      ∀ x ∈ rest, ∃ batch, x = ⟨.addRecords batch, s.stored batch⟩ := by
  cases hempty : batch.isEmpty with
  | true => exact ⟨[], _, ends_addBatch_iff.2 (.inl ⟨hempty, rfl, rfl⟩), by simp⟩
  | false =>
    refine ⟨_, _, ends_addBatch_iff.2 (.inr ⟨hempty, s.stored batch, rfl, rfl⟩), ?_⟩
    intro x hx
    exact ⟨batch, List.mem_singleton.1 hx⟩

/-- However a delivery is to be answered, there is a run with these answers. -/
theorem exists_given (s : Replies) (router : Router) (inquiry : Inquiry) :
    ∃ exchanges b, (router.deliver inquiry).run.Ends exchanges b ∧ s.Given exchanges := by
  cases hadapter : router.adapterOf inquiry with
  | error e =>
    have hgiven : s.Given [] := ⟨by simp, List.nil_prefix, by simp⟩
    exact ⟨[], _, ends_deliver_iff.2 (.inl ⟨e, hadapter, rfl, rfl⟩), hgiven⟩
  | ok adapter =>
    cases hfetched : s.fetched with
    | error e =>
      have hnothing : (recordsOf adapter inquiry []).run.Ends [] (.ok ⟨[], 0⟩) :=
        ends_run_pure_iff.2 ⟨rfl, rfl⟩
      have hgiven : s.Given (⟨.fetch adapter inquiry, s.fetched⟩ :: ([] ++ [])) :=
        given_of_ends_recordsOf hnothing List.nil_prefix (by simp)
      rw [hfetched] at hgiven
      exact ⟨_, _, ends_deliver_iff.2 (.inr ⟨adapter, hadapter, .inl ⟨e, rfl, rfl⟩⟩), hgiven⟩
    | ok events =>
      obtain ⟨sifting, hsifting, hmade⟩ :=
        exists_ends_recordsOf adapter inquiry (s.length_made hfetched)
      cases hbatch : batchOf s.made with
      | error e =>
        have hgiven : s.Given (⟨.fetch adapter inquiry, s.fetched⟩ :: (sifting ++ [])) :=
          given_of_ends_recordsOf hsifting hmade (by simp)
        rw [hfetched, List.append_nil] at hgiven
        rw [hbatch] at hsifting
        exact ⟨_, _, ends_deliver_iff.2 (.inr ⟨adapter, hadapter, .inr ⟨events, sifting, rfl,
          .inr ⟨e, hsifting, rfl⟩⟩⟩), hgiven⟩
      | ok d =>
        obtain ⟨rest, stored, hstored, hrest⟩ := exists_ends_addBatch s d.records
        have hgiven := given_of_ends_recordsOf hsifting hmade hrest
        rw [hfetched] at hgiven
        rw [hbatch] at hsifting
        exact ⟨_, _, ends_deliver_iff.2 (.inr ⟨adapter, hadapter, .inr ⟨events, _, rfl,
          .inl ⟨d, sifting, rest, stored, rfl, hsifting, hstored, rfl⟩⟩⟩), hgiven⟩

theorem failureOf_eq_nil_iff {α : Type} {x : Fallible α} : failureOf x = [] ↔ ∃ a, x = .ok a := by
  cases x <;> simp [failureOf]

theorem stores_iff : s.Stores ↔ ∃ u, s.taken = .ok u := by
  unfold Stores taken
  cases s.delivery.records with
  | nil => simp
  | cons r rest => cases s.stored (r :: rest) <;> simp [Except.mapError]

/-- Only a failure that says nothing of its event's form fails a batch. -/
theorem filterMap_batchFailure?_eq_nil_iff {made : List (Fallible ActivityRecord)} :
    made.filterMap batchFailure? = [] ↔
      ∀ e, .error e ∈ made → ∃ reason, e = .malformed reason ∨ e = .decode reason := by
  rw [List.filterMap_eq_nil_iff]
  constructor
  · intro h e he
    have hnone := h _ he
    cases e with
    | malformed reason => exact ⟨reason, .inl rfl⟩
    | decode reason => exact ⟨reason, .inr rfl⟩
    | _ => cases hnone
  · intro h answer hanswer
    cases answer with
    | ok r => rfl
    | error e =>
      obtain ⟨reason, rfl | rfl⟩ := h e hanswer
      · rfl
      · rfl

theorem failures_eq_nil_iff : s.failures router inquiry = [] ↔
    (∃ adapter, router.Finds inquiry adapter) ∧ (∃ events, s.fetched = .ok events) ∧
      (∀ e, .error e ∈ s.made → ∃ reason, e = .malformed reason ∨ e = .decode reason) ∧
      s.Stores := by
  simp only [failures, List.append_eq_nil_iff, failureOf_eq_nil_iff, adapterOf_eq_ok_iff,
    filterMap_batchFailure?_eq_nil_iff, stores_iff, and_assoc]

theorem outcome_eq_ok_iff {d : Delivery} : s.outcome router inquiry = .ok d ↔
    s.failures router inquiry = [] ∧ d = s.delivery := by
  unfold outcome
  cases s.failures router inquiry <;> simp [eq_comm]

theorem outcome_eq_error_iff {e : Failure} : s.outcome router inquiry = .error e ↔
    (s.failures router inquiry).head? = some e := by
  unfold outcome
  cases s.failures router inquiry <;> simp

/-- The adapter that is found is called, and no other: for the inquiry, and then for the events one
by one, for all of them if the delivery succeeds. -/
theorem calls_of_ends_deliver (h : (router.deliver inquiry).run.Ends exchanges b)
    (hgiven : s.Given exchanges) (hfinds : router.Finds inquiry adapter)
    (hfetched : s.fetched = .ok events) :
    exchanges.filterMap adapterCallIn? <+:
        .fetch adapter inquiry :: events.map (.recordOf adapter inquiry) ∧
      ∀ d, b = .ok d → exchanges.filterMap adapterCallIn? =
        .fetch adapter inquiry :: events.map (.recordOf adapter inquiry) := by
  have hadapter := adapterOf_eq_ok_iff.2 hfinds
  obtain ⟨e, hmissing, -⟩ | ⟨adapter', hadapter', ⟨e, rfl, rfl⟩ | ⟨events', more, rfl, hmore⟩⟩ :=
    ends_deliver_iff.1 h
  · cases hadapter.symm.trans hmissing
  · cases (hgiven.fetched adapter' inquiry _ List.mem_cons_self).trans hfetched
  · cases hadapter.symm.trans hadapter'
    cases (hgiven.fetched adapter inquiry _ List.mem_cons_self).trans hfetched
    obtain ⟨d, sifting, rest, stored, rfl, hsifting, hstored, rfl⟩ | ⟨e, hsifting, rfl⟩ := hmore
    · obtain ⟨-, hall⟩ := calls_of_ends_recordsOf hsifting
      have hcalls : (sifting ++ rest).filterMap adapterCallIn? =
          events.map (.recordOf adapter inquiry) := by
        rw [List.filterMap_append, hall d rfl]
        obtain ⟨-, rfl, -⟩ | ⟨-, answer, rfl, -⟩ := ends_addBatch_iff.1 hstored
        · exact List.append_nil _
        · exact List.append_nil _
      have hfirst := congrArg (WorkRequest.fetch adapter inquiry :: ·) hcalls
      exact ⟨hfirst ▸ List.prefix_rfl, fun _ _ => hfirst⟩
    · obtain ⟨hpart, -⟩ := calls_of_ends_recordsOf hsifting
      exact ⟨List.cons_prefix_cons.2 ⟨rfl, hpart⟩, fun d hd => by cases hd⟩

end Replies

end ChainCrawl
