import ChainCrawl.Proofs.Explorer.Account
import ChainCrawl.Proofs.Explorer.EventRecord
import ChainCrawl.Proofs.Poller.Coverage

namespace ChainCrawl.Poller

open Proc

/-- What the adapter is asked for in an exchange, it answers from the explorer; what it knows of
tokens by then may be anything. -/
def AnsweredBy (client : Explorer.Client) (explorer : String → Option Explorer.HttpResponse)
    (network : Network) : Exchange surroundings → Prop
  | ⟨.fetch _ inquiry, answer⟩ => answer = (Explorer.fetch client inquiry).value explorer
  | ⟨.recordOf _ inquiry event, answer⟩ => ∃ cache ticks now,
      answer = (Explorer.recordOf network cache ticks now inquiry event).1
  | _ => True

variable {loop : Poller} {t : Tables} {exchanges survey : List (Exchange surroundings)}
  {outcome : CycleEnd} {window : Window}

variable {client : Explorer.Client} {explorer : String → Option Explorer.HttpResponse}
  {items : List Explorer.AccountItem} {network : Network} {adapter : AdapterRef}

theorem window_of_handsOver_of_advanced (hhands : loop.HandsOver exchanges window)
    (hcycle : loop.cycle.Ends exchanges outcome) {w : Window} (hw : outcome.window? = some w) :
    w = window := by
  obtain ⟨-, survey, rest, c, safeHeight, rfl, hintent⟩ := hhands
  obtain ⟨result, hcarry, rfl⟩ := ends_carryOut_of_ends_cycle hintent hcycle
  obtain ⟨delivering, closing, cause, rfl, -, -, rfl⟩ | ⟨delivering, d, saved, rfl, -, rfl⟩ :=
    ends_advance_iff.1 hcarry
  · cases hw
  · cases saved with
    | error => cases hw
    | ok => exact (Option.some.inj hw).symm

/-- An item of a window that was advanced over is held, if it can become a record. -/
theorem isSome_get?_of_item {records : Nat} {caughtUp : Bool}
    (hcycle : loop.cycle.Ends exchanges (.advanced window records caughtUp))
    (hanswered : ∀ e ∈ exchanges, AnsweredBy client explorer network e)
    (hserves : Explorer.Serves client explorer items (loop.inquiryFor window)) {action : String}
    (haction : action = Explorer.tokenEndpoint ∨ action = Explorer.transactionEndpoint)
    {item : Explorer.AccountItem}
    (hitem : item ∈ Explorer.itemsFor items action (loop.inquiryFor window))
    {cache : Explorer.TokenCache} {ticks : Nat} {now : Time.Instant} {inquiry : Inquiry}
    {r : ActivityRecord} (hr : (Explorer.recordOf network cache ticks now inquiry
      ⟨action, item.payload⟩).1 = .ok r) :
    ((t.run exchanges).records.get? r.identifier).isSome := by
  obtain ⟨survey, delivering, c, safeHeight, d, hexchanges, -, hdeliver⟩ :=
    delivery_of_advanced hcycle
  obtain ⟨adapter, events, sifting, -, hsifting, rfl⟩ := Router.ends_deliver_ok_iff.1 hdeliver
  have hfetch : .ok events = (Explorer.fetch client (loop.inquiryFor window)).value explorer := by
    refine hanswered ⟨.fetch adapter (loop.inquiryFor window), .ok events⟩ ?_
    simp [hexchanges]
  have hreachable : ¬ Explorer.Overfull items (loop.inquiryFor window) := by
    intro hoverfull
    cases hfetch.trans (Explorer.value_fetch_of_overfull rfl hserves hoverfull)
  obtain ⟨fetched, hvalue, hevents⟩ :=
    Explorer.value_fetch_of_not_overfull rfl rfl hserves hreachable
  obtain rfl : events = fetched := Except.ok.inj (hfetch.trans hvalue)
  obtain ⟨answer, hasked⟩ :=
    Router.exists_recordOf_of_ends_recordsOf hsifting (hevents action haction item hitem)
  have hmem : ⟨.recordOf adapter (loop.inquiryFor window) ⟨action, item.payload⟩, answer⟩ ∈
      exchanges := by
    rw [hexchanges]
    exact List.mem_append_right _ (List.mem_append_left _ (List.mem_cons_of_mem _
      (List.mem_append_left _ hasked)))
  obtain ⟨cache', ticks', now', hanswer⟩ := hanswered _ hmem
  obtain ⟨r', hr', hidentifier⟩ := Explorer.exists_recordOf_of_recordOf hr
  rw [hanswer, hr'] at hmem
  rw [← hidentifier]
  exact isSome_get?_of_advanced hcycle hmem

/-- A transfer of a window that was advanced over is held under its place in the log. -/
theorem isSome_get?_of_transfer {records : Nat} {caughtUp : Bool}
    (hcycle : loop.cycle.Ends exchanges (.advanced window records caughtUp))
    (hanswered : ∀ e ∈ exchanges, AnsweredBy client explorer network e)
    (hserves : Explorer.Serves client explorer items (loop.inquiryFor window))
    {item : Explorer.AccountItem}
    (hitem : item ∈ Explorer.itemsFor items Explorer.tokenEndpoint (loop.inquiryFor window))
    {cache : Explorer.TokenCache} {ticks : Nat} {now : Time.Instant} {inquiry : Inquiry}
    {r : ActivityRecord} (hr : (Explorer.recordOf network cache ticks now inquiry
      ⟨Explorer.tokenEndpoint, item.payload⟩).1 = .ok r) :
    ∃ transfer logIndex, Explorer.Transfer.decode item.payload = .ok transfer ∧
      transfer.logIndex = some logIndex ∧
      ((t.run exchanges).records.get? (ActivityRecord.identifierOf network
        (transfer.hash ++ "-" ++ logIndex))).isSome := by
  have hheld := @isSome_get?_of_item _ t _ _ _ _ _ _ _ _ hcycle hanswered hserves _ (.inl rfl)
    _ hitem _ _ _ _ _ hr
  obtain ⟨transfer, logIndex, hdecode, haccepted, hidentifier⟩ := Explorer.accepted_of_recordOf hr
  rw [hidentifier] at hheld
  exact ⟨transfer, logIndex, hdecode, haccepted.1, hheld⟩

/-- A transaction of a window that was advanced over is held under its hash. -/
theorem isSome_get?_of_transaction {records : Nat} {caughtUp : Bool}
    (hcycle : loop.cycle.Ends exchanges (.advanced window records caughtUp))
    (hanswered : ∀ e ∈ exchanges, AnsweredBy client explorer network e)
    (hserves : Explorer.Serves client explorer items (loop.inquiryFor window))
    {item : Explorer.AccountItem}
    (hitem : item ∈ Explorer.itemsFor items Explorer.transactionEndpoint (loop.inquiryFor window))
    {cache : Explorer.TokenCache} {ticks : Nat} {now : Time.Instant} {inquiry : Inquiry}
    {r : ActivityRecord} (hr : (Explorer.recordOf network cache ticks now inquiry
      ⟨Explorer.transactionEndpoint, item.payload⟩).1 = .ok r) :
    ∃ tx, Explorer.Transaction.decode item.payload = .ok tx ∧
      ((t.run exchanges).records.get? (ActivityRecord.identifierOf network tx.hash)).isSome := by
  have hheld := @isSome_get?_of_item _ t _ _ _ _ _ _ _ _ hcycle hanswered hserves _ (.inr rfl)
    _ hitem _ _ _ _ _ hr
  obtain ⟨tx, hdecode, -, hidentifier⟩ := Explorer.isDated_of_recordOf hr
  rw [hidentifier] at hheld
  exact ⟨tx, hdecode, hheld⟩

/-- A delivery of a window with too many items stops at the fetch. -/
theorem ends_deliver_of_overfull {b : Fallible Delivery}
    (hdeliver : (loop.router.deliver (loop.inquiryFor window)).run.Ends exchanges b)
    (hadapter : loop.router.adapterOf (loop.inquiryFor window) = .ok adapter)
    (hanswered : ∀ e ∈ exchanges, AnsweredBy client explorer network e)
    (hserves : Explorer.Serves client explorer items (loop.inquiryFor window))
    (hoverfull : Explorer.Overfull items (loop.inquiryFor window)) :
    b = .error (Explorer.overfullFailure window) := by
  have hvalue := Explorer.value_fetch_of_overfull rfl hserves hoverfull
  obtain ⟨e, hmissing, -⟩ | ⟨adapter', -, ⟨e, rfl, rfl⟩ | ⟨events, more, rfl, -⟩⟩ :=
    Router.ends_deliver_iff.1 hdeliver
  · rw [hadapter] at hmissing
    cases hmissing
  · have hfetch : .error e = (Explorer.fetch client (loop.inquiryFor window)).value explorer :=
      hanswered _ List.mem_cons_self
    obtain rfl := Except.error.inj (hfetch.trans hvalue)
    rfl
  · have hfetch : .ok events = (Explorer.fetch client (loop.inquiryFor window)).value explorer :=
      hanswered _ List.mem_cons_self
    cases hfetch.trans hvalue

/-- A cycle whose window holds too many items is refused, and stores no record. -/
theorem refused_of_overfull (hcycle : loop.cycle.Ends exchanges outcome)
    (hhands : loop.HandsOver exchanges window)
    (hadapter : loop.router.adapterOf (loop.inquiryFor window) = .ok adapter)
    (hanswered : ∀ e ∈ exchanges, AnsweredBy client explorer network e)
    (hserves : Explorer.Serves client explorer items (loop.inquiryFor window))
    (hoverfull : Explorer.Overfull items (loop.inquiryFor window)) (t : Tables) :
    outcome = .failed (Explorer.overfullFailure window) ∧
      (t.run exchanges).records = t.records := by
  obtain ⟨-, survey, rest, c, safeHeight, rfl, hintent⟩ := hhands
  obtain ⟨result, hcarry, rfl⟩ := ends_carryOut_of_ends_cycle hintent hcycle
  obtain ⟨delivering, closing, cause, rfl, hdeliver, hclosing, rfl⟩ |
    ⟨delivering, d, saved, rfl, hdeliver, -⟩ := ends_advance_iff.1 hcarry
  · have hfailed := ends_deliver_of_overfull hdeliver hadapter
      (fun e he => hanswered e (List.mem_append_right _ (List.mem_append_left _ he))) hserves
      hoverfull
    obtain rfl := Except.error.inj hfailed
    refine ⟨rfl, ?_⟩
    rw [Tables.run_append, Tables.run_append, records_run_givingUp hclosing,
      Router.records_of_ends_deliver_error hdeliver, records_run_survey hintent]
  · have hfailed := ends_deliver_of_overfull hdeliver hadapter
      (fun e he => hanswered e (List.mem_append_right _ (List.mem_append_left _ he))) hserves
      hoverfull
    cases hfailed

/-- What a cycle that moves over no window leaves stored is at the position that was stored
before. -/
theorem position_of_window?_eq_none (hcycle : loop.cycle.Ends exchanges outcome)
    (hpermits : t.Permits exchanges) (hwindow : outcome.window? = none) :
    loop.position (loop.storedIn (t.run exchanges)) = loop.position (loop.storedIn t) ∧
      ∀ c, loop.storedIn t = some c → loop.source.startHeight ≤ c.height →
        ∃ c', loop.storedIn (t.run exchanges) = some c' ∧ c'.height = c.height := by
  obtain hsame | ⟨x, hx, hheight⟩ := storedIn_of_window?_eq_none hcycle hpermits hwindow
  · rw [hsame]
    exact ⟨rfl, fun c hc _ => ⟨c, hc, rfl⟩⟩
  · have hlow : loop.source.startHeight ≤ x.height := hheight ▸ startHeight_le_position
    refine ⟨?_, fun c hc hle => ⟨x, hx, ?_⟩⟩
    · rw [hx, position, hheight]
      omega
    · rw [hheight, hc, position]
      omega

/-- A cycle of the sample source over the sample explorer, with the record that it stores. -/
def ingestionSample (r : ActivityRecord) : List (Exchange surroundings) :=
  [loading (.of .sample .sample) (.ok none), looking (.of .sample .sample) (.ok 124),
    ⟨.fetch ⟨0, "sample"⟩ Explorer.sampleInquiry,
      .ok [⟨Explorer.transactionEndpoint, Explorer.AccountItem.sample.payload⟩]⟩,
    ⟨.recordOf ⟨0, "sample"⟩ Explorer.sampleInquiry
      ⟨Explorer.transactionEndpoint, Explorer.AccountItem.sample.payload⟩, .ok r⟩,
    ⟨.addRecords [r], .ok ()⟩, saving (cursorAt 110 9) (.ok ())]

end ChainCrawl.Poller
