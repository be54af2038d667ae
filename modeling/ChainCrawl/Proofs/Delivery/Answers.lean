import ChainCrawl.Proofs.Delivery.Router

namespace ChainCrawl

open Proc

/-- What the adapters answer, by the arguments of the call. -/
structure AdapterAnswers where
  fetch : AdapterRef → Inquiry → Fallible (List Event)
  recordOf : AdapterRef → Inquiry → Event → Fallible ActivityRecord

namespace AdapterAnswers

/-- An adapter that is called in the exchange answers like this; all else is left open. -/
def Gives (s : AdapterAnswers) : Exchange surroundings → Prop
  | ⟨.fetch adapter p, answer⟩ => answer = s.fetch adapter p
  | ⟨.recordOf adapter p event, answer⟩ => answer = s.recordOf adapter p event
  | _ => True

/-- The records of events, in their order, and the number of events that are left out; a failure
that concerns more than its event is that of all. -/
def sift (s : AdapterAnswers) (adapter : AdapterRef) (p : Inquiry) : List Event → Fallible Delivery
  | [] => .ok ⟨[], 0⟩
  | event :: rest =>
    match s.recordOf adapter p event with
    | .ok r => (s.sift adapter p rest).map fun d => { d with records := r :: d.records }
    | .error e =>
      if e.skipReason?.isSome then
        (s.sift adapter p rest).map fun d => { d with skipped := d.skipped + 1 }
      else .error e

/-- What an inquiry comes to where the records take every batch. -/
def deliveryOf (s : AdapterAnswers) (router : Router) (p : Inquiry) : Fallible Delivery := do
  let adapter ← router.adapterOf p
  let events ← s.fetch adapter p
  s.sift adapter p events

variable {s : AdapterAnswers} {router : Router} {adapter : AdapterRef} {p : Inquiry}
  {exchanges : List (Exchange surroundings)}

theorem deliveryOf_of_unserved {e : Failure} (h : router.adapterOf p = .error e) :
    s.deliveryOf router p = .error e := by
  rw [deliveryOf, h]
  rfl

theorem deliveryOf_of_served (h : router.adapterOf p = .ok adapter) :
    s.deliveryOf router p = (s.fetch adapter p).bind (s.sift adapter p) := by
  rw [deliveryOf, h]
  rfl

theorem eq_sift_of_ends_recordsOf {events : List Event} {b : Fallible Delivery}
    (h : (Router.recordsOf adapter p events).run.Ends exchanges b)
    (hgives : ∀ x ∈ exchanges, s.Gives x) : b = s.sift adapter p events := by
  induction events generalizing exchanges b with
  | nil =>
    obtain ⟨-, rfl⟩ := ends_run_pure_iff.1 h
    rfl
  | cons event rest ih =>
    obtain ⟨r, more, d, rfl, hrest, rfl⟩ | ⟨e, reason, more, d, hskip, rfl, hrest, rfl⟩ |
      ⟨e, hskip, rfl, rfl⟩ := Router.ends_recordsOf_cons_iff.1 h
    · have hr : .ok r = s.recordOf adapter p event := hgives _ List.mem_cons_self
      rw [sift, ← hr, ← ih hrest fun x hx => hgives x (List.mem_cons_of_mem _ hx)]
    · have he : .error e = s.recordOf adapter p event := hgives _ List.mem_cons_self
      rw [sift, ← he, ← ih hrest fun x hx => hgives x (by simp [hx])]
      simp [hskip]
    · have he : .error e = s.recordOf adapter p event := hgives _ List.mem_cons_self
      rw [sift, ← he]
      simp [hskip]

/-- A delivery comes to what the answers make of it, or the records did not take its batch. -/
theorem eq_deliveryOf_of_ends_deliver {b : Fallible Delivery}
    (h : (router.deliver p).run.Ends exchanges b) (hgives : ∀ x ∈ exchanges, s.Gives x) :
    b = s.deliveryOf router p ∨
      ∃ (d : Delivery) (e : TableFailure), s.deliveryOf router p = .ok d ∧
        ⟨.addRecords d.records, .error e⟩ ∈ exchanges ∧ b = .error e.toFailure := by
  obtain ⟨e, hadapter, rfl, rfl⟩ | ⟨adapter, hadapter, ⟨e, rfl, rfl⟩ |
    ⟨events, more, rfl, hmore⟩⟩ := Router.ends_deliver_iff.1 h
  · exact .inl (deliveryOf_of_unserved hadapter).symm
  · have hfetch : .error e = s.fetch adapter p := hgives _ List.mem_cons_self
    rw [deliveryOf_of_served hadapter, ← hfetch]
    exact .inl rfl
  · have hfetch : .ok events = s.fetch adapter p := hgives _ List.mem_cons_self
    have hdelivery : s.deliveryOf router p = s.sift adapter p events := by
      rw [deliveryOf_of_served hadapter, ← hfetch]
      rfl
    rw [hdelivery]
    have hmoreGives : ∀ x ∈ more, s.Gives x := fun x hx => hgives x (List.mem_cons_of_mem _ hx)
    obtain ⟨d, sifting, rest, stored, rfl, hsifting, hstored, rfl⟩ | ⟨e, hsifting, rfl⟩ := hmore
    · have hd := eq_sift_of_ends_recordsOf hsifting fun x hx =>
        hmoreGives x (List.mem_append_left _ hx)
      obtain ⟨-, -, rfl⟩ | ⟨-, answer, rfl, rfl⟩ := Router.ends_addBatch_iff.1 hstored
      · exact .inl hd
      · cases answer with
        | ok => exact .inl hd
        | error e => exact .inr ⟨d, e, hd.symm, by simp, rfl⟩
    · exact .inl (eq_sift_of_ends_recordsOf hsifting hmoreGives)

theorem deliveryOf_of_ends_deliver_ok {d : Delivery}
    (h : (router.deliver p).run.Ends exchanges (.ok d)) (hgives : ∀ x ∈ exchanges, s.Gives x) :
    s.deliveryOf router p = .ok d := by
  obtain heq | ⟨_, e, -, -, heq⟩ := eq_deliveryOf_of_ends_deliver h hgives
  · exact heq.symm
  · cases heq

end AdapterAnswers

end ChainCrawl
