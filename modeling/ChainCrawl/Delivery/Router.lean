import ChainCrawl.Visit.Queue

namespace ChainCrawl

/-- What came of an inquiry: the stored records, and how many events were left out. -/
structure Delivery where
  records : List ActivityRecord
  skipped : Nat

/-- The way from inquiries to adapters, with the queue that remembers who was asked for. -/
structure Router where
  adapters : AdapterTable
  queue : Option VisitQueue

namespace Router

def reportSkipped (adapter : AdapterRef) (inquiry : Inquiry) (event : Event)
    (reason : String) : Work Unit :=
  Work.report .warn "Skipping malformed record"
    [("adapter", adapter.name), ("network", inquiry.network.name), ("identity", inquiry.identity),
      ("endpoint", event.endpoint), ("error", reason)]

def recordsOf (adapter : AdapterRef) (inquiry : Inquiry) : List Event → Crawl Delivery
  | [] => return ⟨[], 0⟩
  | event :: rest => do
    match ← Work.ask (.recordOf adapter inquiry event) with
    | .ok r =>
      let more ← recordsOf adapter inquiry rest
      return { more with records := r :: more.records }
    | .error e =>
      match e.skipReason? with
      | some reason =>
        reportSkipped adapter inquiry event reason
        let more ← recordsOf adapter inquiry rest
        return { more with skipped := more.skipped + 1 }
      | none => throw e

/-- Adds a batch to the records; an empty one is not handed over. -/
def addBatch (batch : List ActivityRecord) : Crawl Unit :=
  if batch.isEmpty then return
  else Work.fromTable (Work.call (.addRecords batch))

def adapterOf (router : Router) (inquiry : Inquiry) : Fallible AdapterRef :=
  router.adapters.select inquiry.network inquiry.platform

/-- Fetches what an inquiry asks for, makes a record of each event and stores the records as one
batch. An event that cannot become a record is left out; any other failure ends the inquiry before
anything is stored. -/
def deliver (router : Router) (inquiry : Inquiry) : Crawl Delivery := do
  let adapter ← ExceptT.mk (pure (router.adapterOf inquiry))
  let events ← ExceptT.mk (Work.call (.fetch adapter inquiry))
  let delivery ← recordsOf adapter inquiry events
  addBatch delivery.records
  return delivery

/-- Remembers an inquiry in the queue; a failure is reported and goes no further. -/
def rememberVisit (router : Router) (inquiry : Inquiry) : Work Unit :=
  match router.queue with
  | none => return
  | some _ => do
    match ← (VisitQueue.touch inquiry).run with
    | .ok () => return
    | .error e =>
      Work.report .warn "Failed to record visit"
        [("network", inquiry.network.name), ("identity", inquiry.identity), ("error", e.text)]

/-- An inquiry made on demand: it is remembered for later passes, then delivered. An inquiry that no
adapter serves is refused before that. -/
def onDemand (router : Router) (inquiry : Inquiry) : Crawl Delivery := do
  let _ ← ExceptT.mk (pure (router.adapterOf inquiry))
  ExceptT.lift (router.rememberVisit inquiry)
  router.deliver inquiry

end Router

end ChainCrawl
