import ChainCrawl.Proofs.Explorer.Item
import ChainCrawl.Proofs.Poller.Retriable

namespace ChainCrawl

open Proc

namespace Explorer

variable {network : Network} {cache : TokenCache} {ticks : Nat} {now : Time.Instant}
  {client : Client} {inquiry : Inquiry} {event : Event} {r : ActivityRecord} {since : Time.Instant}

/-- A record is dated by the time stamp of its item. -/
theorem readTimeStamp_of_recordOf
    (h : (recordOf network cache ticks now inquiry event).1 = .ok r) :
    ∃ timeStamp, eventField? event "timeStamp" = some (.str timeStamp) ∧
      readTimeStamp timeStamp = some r.createdAt := by
  obtain ⟨endpoint, payload⟩ := event
  obtain rfl | rfl := endpoint_of_recordOf h
  · obtain ⟨transfer, logIndex, token, hdecode, -, -, hmade⟩ := transferRecord_of_recordOf h
    obtain ⟨bare, hbare, -, hcreatedAt⟩ := bareRecord_of_transferRecord hmade
    refine ⟨transfer.timeStamp, ?_, ?_⟩
    · rw [eventField?_of_transfer rfl]
      exact (Transfer.holds_of_decode hdecode).timeStamp
    · rw [hcreatedAt, readTimeStamp_of_bareRecord hbare]
  · rw [recordOf_transaction] at h
    obtain ⟨tx, bare, hdecode, hbare, -, hcreatedAt⟩ := bareRecord_of_recordOfTransaction h
    refine ⟨tx.timeStamp, ?_, ?_⟩
    · rw [eventField?_of_transaction rfl]
      exact (Transaction.holds_of_decode hdecode).timeStamp
    · rw [hcreatedAt, readTimeStamp_of_bareRecord hbare]

/-- An item that becomes a record is dropped exactly if it is an object and the record would be
older. -/
theorem happenedBefore_iff_of_makes (h : Makes network inquiry event (.ok r)) :
    happenedBefore event.payload since = true ↔
      event.payload.isObject = true ∧ r.createdAt.before since = true := by
  obtain ⟨cache, ticks, now, hrecord⟩ := h
  obtain ⟨timeStamp, hgiven, hread⟩ := readTimeStamp_of_recordOf hrecord.symm
  obtain ⟨endpoint, payload⟩ := event
  cases payload with
  | obj fields =>
    rw [eventField?_obj] at hgiven
    simp [happenedBefore, Json.get?, Json.str?, Json.isObject, hgiven, hread]
  | null | bool _ | int _ | float _ | str _ | arr _ =>
    simp [happenedBefore, Json.get?, Json.isObject]

/-- What else an adapter made of the same event has the same identifier and the same date. -/
theorem exists_of_makes {answer : Fallible ActivityRecord}
    (h : Makes network inquiry event (.ok r)) (hanswer : Makes network inquiry event answer) :
    ∃ r', answer = .ok r' ∧ r'.identifier = r.identifier ∧ r'.createdAt = r.createdAt := by
  obtain ⟨cache, ticks, now, hrecord⟩ := h
  obtain ⟨cache', ticks', now', rfl⟩ := hanswer
  obtain ⟨r', hrecord', hidentifier⟩ := @exists_recordOf_of_recordOf _ _ _ _ _ _ _ _ cache' ticks'
    now' inquiry hrecord.symm
  obtain ⟨timeStamp, hgiven, hread⟩ := readTimeStamp_of_recordOf hrecord.symm
  obtain ⟨timeStamp', hgiven', hread'⟩ := readTimeStamp_of_recordOf hrecord'
  rw [hgiven, Option.some.injEq, Json.str.injEq] at hgiven'
  subst hgiven'
  rw [hread] at hread'
  exact ⟨r', hrecord', hidentifier, (Option.some.inj hread').symm⟩

/-- A fetch since an instant reads the same lists as a fetch at any time, and drops items of what it
has read. -/
theorem fetch_of_since (hsince : inquiry.since = some since) :
    fetch client inquiry = (fetch client { inquiry with since := none }).bind fun listed =>
      .done (listed.map fun events => events.filter (!happenedBefore ·.payload since)) := by
  unfold fetch
  rw [hsince]
  refine Eq.trans ?_ (Proc.bind_assoc _ _ _).symm
  refine congrArg (Proc.bind _) (funext fun listed => ?_)
  cases listed with
  | error f => rfl
  | ok lists =>
    exact congrArg (fun events : List Event => done (Except.ok
      (events.filter fun event => !happenedBefore event.payload since))) (List.filter_true _).symm

/-- Where the adapter is called in the exchange, it is the one for explorers over a client, however
the web answers the client. -/
def RunsOver (client : Client) (network : Network) (adapter : AdapterRef) :
    Exchange surroundings → Prop
  | ⟨.fetch called inquiry, answer⟩ => called = adapter →
      ∃ web, (fetch client inquiry).Ends web answer
  | x => Plays client network adapter x

theorem RunsOver.plays {adapter : AdapterRef} {x : Exchange surroundings}
    (h : RunsOver client network adapter x) : Plays client network adapter x := by
  obtain ⟨request, answer⟩ := x
  cases request with
  | fetch called inquiry =>
    intro hcalled e heq
    obtain ⟨web, hweb⟩ := h hcalled
    rw [heq] at hweb
    exact ⟨web, hweb⟩
  | _ => exact h

/-- Of the items listed for an inquiry, the records are those of items that happened since. -/
structure StoredSince (network : Network) (inquiry : Inquiry) (since : Time.Instant)
    (listed : List Event) (records : List ActivityRecord) : Prop where
  /-- A record is one of a listed item, and it is not older, unless its item is no object. -/
  none_older : ∀ r ∈ records, ∃ event ∈ listed, Makes network inquiry event (.ok r) ∧
    (event.payload.isObject = true → r.createdAt.before since = false)
  /-- A listed item that becomes a record which is not older has one. -/
  none_missing : ∀ event ∈ listed, ∀ r, Makes network inquiry event (.ok r) →
    r.createdAt.before since = false → ∃ r' ∈ records, Makes network inquiry event (.ok r') ∧
      r'.identifier = r.identifier ∧ r'.createdAt = r.createdAt

theorem storedSince_of_sifts {listed : List Event} {d : Delivery}
    (h : Router.Sifts (Makes network inquiry)
      (listed.filter (!happenedBefore ·.payload since)) d) :
    StoredSince network inquiry since listed d.records := by
  constructor
  · intro r hr
    obtain ⟨event, hevent, hmade⟩ := h.exists_event hr
    obtain ⟨hlisted, hkept⟩ := List.mem_filter.1 hevent
    refine ⟨event, hlisted, hmade, fun hobject => ?_⟩
    rw [Bool.not_eq_true', ← Bool.not_eq_true, happenedBefore_iff_of_makes hmade] at hkept
    exact Bool.eq_false_iff.2 fun holder => hkept ⟨hobject, holder⟩
  · intro event hlisted r hmade hyoung
    have hkept : happenedBefore event.payload since = false := by
      rw [Bool.eq_false_iff, ne_eq, happenedBefore_iff_of_makes hmade, hyoung]
      simp
    obtain ⟨answer, hanswer, hrecords⟩ := h.exists_answer
      (List.mem_filter.2 ⟨hlisted, by rw [hkept]; rfl⟩)
    obtain ⟨r', rfl, hsame⟩ := exists_of_makes hmade hanswer
    exact ⟨r', hrecords r' rfl, hanswer, hsame⟩

end Explorer

namespace Router

open Explorer

/-- An item that becomes a record is dropped exactly if it is an object and the record would be
older than the instant. So a delivery since an instant has, of the items that a fetch at any time
would list, no record of an object that is older, and it misses none that is not older. -/
theorem since_respected (since : Time.Instant) :
    (∀ {network : Network} {inquiry : Inquiry} {event : Event} {r : ActivityRecord},
      Makes network inquiry event (.ok r) → (happenedBefore event.payload since = true ↔
        event.payload.isObject = true ∧ r.createdAt.before since = true)) ∧
    ∀ {client : Client} {network : Network} {adapter : AdapterRef} {router : Router}
      {inquiry : Inquiry} {exchanges : List (Exchange surroundings)} {d : Delivery},
      inquiry.since = some since → router.adapterOf inquiry = .ok adapter →
      (∀ x ∈ exchanges, RunsOver client network adapter x) →
      (router.deliver inquiry).run.Ends exchanges (.ok d) →
      (∃ web listed, (fetch client { inquiry with since := none }).Ends web (.ok listed) ∧
        StoredSince network inquiry since listed d.records) ∧
      ∀ t : Tables, (t.run exchanges).records = t.records.addBatch d.records := by
  refine ⟨happenedBefore_iff_of_makes, ?_⟩
  intro client network adapter router inquiry exchanges d hsince hadapter hruns hends
  refine ⟨?_, records_of_ends_deliver_ok hends⟩
  obtain ⟨⟨events, hfetch, hsifts⟩, -⟩ :=
    sifts_of_ends_deliver hends hadapter fun x hx => (hruns x hx).plays
  obtain ⟨web, hweb⟩ := hruns _ hfetch rfl
  rw [fetch_of_since hsince] at hweb
  obtain ⟨listed, hlisted, heq⟩ := ends_bind_done_iff.1 hweb
  cases listed with
  | error e => cases heq
  | ok listed =>
    obtain rfl := Except.ok.inj heq
    exact ⟨web, listed, hlisted, storedSince_of_sifts hsifts⟩

/-- An inquiry after what happened in the sample window since an instant. -/
def sinceInquiry (since : Time.Instant) : Inquiry :=
  { sampleInquiry with since := some since }

/-- A delivery since an instant that finds one event and stores its record. -/
def sinceDelivery (since : Time.Instant) (event : Event) (r : ActivityRecord) :
    List (Exchange surroundings) :=
  [⟨.fetch ⟨0, "sample"⟩ (sinceInquiry since), .ok [event]⟩,
    ⟨.recordOf ⟨0, "sample"⟩ (sinceInquiry since) event, .ok r⟩,
    ⟨.addRecords [r], .ok ()⟩]

theorem ends_sinceDelivery (since : Time.Instant) (event : Event) (r : ActivityRecord) :
    (Router.sample.deliver (sinceInquiry since)).run.Ends (sinceDelivery since event r)
      (.ok ⟨[r], 0⟩) :=
  .ask (.ask (.ask (.nil _)))

theorem runsOver_sinceDelivery {since : Time.Instant} {event : Event} {r : ActivityRecord}
    {explorer : String → Option HttpResponse}
    (hfetch : (fetch .sample sampleInquiry).value explorer = .ok [event])
    (hkept : happenedBefore event.payload since = false)
    (hmade : Makes .ethereum (sinceInquiry since) event (.ok r)) :
    ∀ x ∈ sinceDelivery since event r, RunsOver .sample .ethereum ⟨0, "sample"⟩ x := by
  intro x hx
  simp only [sinceDelivery, List.mem_cons, List.not_mem_nil, or_false] at hx
  rcases hx with rfl | rfl | rfl
  · intro _
    obtain ⟨web, hweb, -⟩ := exists_ends_of_answers explorer (fetch .sample sampleInquiry)
    rw [hfetch] at hweb
    refine ⟨web, ?_⟩
    rw [fetch_of_since (rfl : (sinceInquiry since).since = some since)]
    refine ends_bind_done_iff.2 ⟨_, hweb, ?_⟩
    simp [Except.map, hkept]
  · exact fun _ => hmade
  · trivial

/-- The sample transaction happened since the start of Unix time. -/
theorem since_respected_sample :
    ∃ (r : ActivityRecord) (exchanges : List (Exchange surroundings)),
      Makes .ethereum (sinceInquiry .epoch)
        ⟨transactionEndpoint, AccountItem.sample.payload⟩ (.ok r) ∧
      (happenedBefore AccountItem.sample.payload .epoch = true ↔
        AccountItem.sample.payload.isObject = true ∧ r.createdAt.before .epoch = true) ∧
      (sinceInquiry .epoch).since = some .epoch ∧
      Router.sample.adapterOf (sinceInquiry .epoch) = .ok ⟨0, "sample"⟩ ∧
      (∀ x ∈ exchanges, RunsOver .sample .ethereum ⟨0, "sample"⟩ x) ∧
      (Router.sample.deliver (sinceInquiry .epoch)).run.Ends exchanges (.ok ⟨[r], 0⟩) ∧
      (∃ web listed, (fetch .sample sampleInquiry).Ends web (.ok listed) ∧
        StoredSince .ethereum (sinceInquiry .epoch) .epoch listed [r]) := by
  obtain ⟨r, hr⟩ := @exists_recordOf_of_isDated .ethereum ⟨0, []⟩ 0 .epoch (sinceInquiry .epoch) _ _
    decode_sample (by constructor <;> decide)
  have hmade : Makes .ethereum (sinceInquiry .epoch)
      ⟨transactionEndpoint, AccountItem.sample.payload⟩ (.ok r) := ⟨_, _, _, hr.symm⟩
  have hruns := runsOver_sinceDelivery value_fetch_sample (by decide) hmade
  have hends := ends_sinceDelivery .epoch ⟨transactionEndpoint, AccountItem.sample.payload⟩ r
  obtain ⟨hfilter, hdeliver⟩ := since_respected .epoch
  obtain ⟨hstored, -⟩ := hdeliver rfl rfl hruns hends
  exact ⟨r, _, hmade, hfilter hmade, rfl, rfl, hruns, hends, hstored⟩

/-- The sample transaction with its fields given by their places. -/
def placedItem : AccountItem :=
  { AccountItem.sample with payload := .arr [.str "105", .str "60", .str "0x7", .str "0x1",
    .str "0xab", .str "5"] }

def placedBody : String :=
  "\x7b\"status\":\"1\",\"message\":\"OK\",\"result\":[[\"105\",\"60\",\"0x7\"," ++
    "\"0x1\",\"0xab\",\"5\"]]\x7d"

theorem read?_placedBody : Json.read? placedBody =
    some (.obj [("message", .str "OK"), ("result", .arr [placedItem.payload]),
      ("status", .str "1")]) := by
  cbv

def placedExplorer (url : String) : Option HttpResponse :=
  some ⟨200, if url = sampleUrl transactionEndpoint then placedBody else sampleEmptyBody⟩

theorem serves_placed : Serves .sample placedExplorer [placedItem] sampleInquiry :=
  serves_single rfl rfl read?_placedBody

/-- An explorer lists a transaction of a minute after the start of Unix time by its places, and its
record is stored by a delivery of what happened since forty seconds later. -/
theorem older_item_stored :
    ∃ (since : Time.Instant) (r : ActivityRecord) (exchanges : List (Exchange surroundings)),
      readTimeStamp "100" = some since ∧
      Makes .ethereum (sinceInquiry since) ⟨transactionEndpoint, placedItem.payload⟩ (.ok r) ∧
      r.createdAt.before since = true ∧
      happenedBefore placedItem.payload since = false ∧
      Serves .sample placedExplorer [placedItem] sampleInquiry ∧
      (∀ x ∈ exchanges, RunsOver .sample .ethereum ⟨0, "sample"⟩ x) ∧
      (Router.sample.deliver (sinceInquiry since)).run.Ends exchanges (.ok ⟨[r], 0⟩) := by
  obtain ⟨since, hsince⟩ : ∃ since, readTimeStamp "100" = some since := ⟨_, rfl⟩
  obtain ⟨r, hr⟩ : ∃ r, (recordOf .ethereum ⟨0, []⟩ 0 .epoch (sinceInquiry since)
      ⟨transactionEndpoint, placedItem.payload⟩).1 = .ok r := ⟨_, rfl⟩
  have holder : r.createdAt.before since = true := by
    cases hsince
    cases hr
    rfl
  have hmade : Makes .ethereum (sinceInquiry since) ⟨transactionEndpoint, placedItem.payload⟩
      (.ok r) := ⟨_, _, _, hr.symm⟩
  have hfetch := value_fetch_single serves_placed rfl rfl
  exact ⟨since, r, _, hsince, hmade, holder, rfl, serves_placed,
    runsOver_sinceDelivery hfetch rfl hmade, ends_sinceDelivery _ _ _⟩

end Router

end ChainCrawl
