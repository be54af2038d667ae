import ChainCrawl.Proofs.Explorer.Account
import ChainCrawl.Proofs.Explorer.Failure
import ChainCrawl.Proofs.Explorer.Item
import ChainCrawl.Proofs.Explorer.Paging
import ChainCrawl.Proofs.Text.Lowercase

namespace ChainCrawl.Explorer

open ChainCrawl.Json (Document)
open Proc

/-- The explorer asks for fewer requests, by the status of its answer or by an envelope that reports
a failure and says so in its result. Envelopes that are spared are taken for something else. -/
inductive HttpResponse.Throttles (spared : Envelope → Bool) : HttpResponse → String → Prop where
  | refuses (body : String) : Throttles spared ⟨429, body⟩ body
  | reports {status : Nat} {body message : String} {fields : List (String × Json)} {result : Json}
      (hleast : 200 ≤ status) (hgreatest : status ≤ 299)
      (hbody : Json.read? body = some (.obj fields))
      (hstatus : Json.lookup "status" fields = some (.str "0"))
      (hmessage : Json.lookup "message" fields = some (.str message))
      (hresult : Json.lookup "result" fields = some result)
      (hmentions : Text.Mentions "rate limit" (Envelope.detail ⟨"0", message, result⟩))
      (hspared : spared ⟨"0", message, result⟩ = false) :
      Throttles spared ⟨status, body⟩ (Envelope.detail ⟨"0", message, result⟩)

/-- The fields are those of an envelope that reports a failure. -/
def Envelope.Reports (fields : List (String × Json)) : Prop :=
  Json.lookup "status" fields = some (.str "0") ∧
    (∃ message, Json.lookup "message" fields = some (.str message)) ∧
    (Json.lookup "result" fields).isSome

/-- The answer is that of a remote procedure call with an error, and not at the same time an
envelope that reports a failure. -/
inductive HttpResponse.FailsCall : HttpResponse → Json → Prop
  | errs {status : Nat} {body : String} {fields : List (String × Json)} {e : Json}
      (hleast : 200 ≤ status) (hgreatest : status ≤ 299)
      (hbody : Json.read? body = some (.obj fields)) (hreports : ¬ Envelope.Reports fields)
      (herror : Json.lookup "error" fields = some e) (hnull : e ≠ .null) :
      FailsCall ⟨status, body⟩ e

theorem Envelope.reports_of_decode {fields : List (String × Json)} {e : Envelope}
    (h : decode "ApiEnvelope" Envelope.fields (.obj fields) = .ok e) (hstatus : e.status = "0") :
    Reports fields := by
  obtain ⟨hbuild, -⟩ := Shape.Fields.build_of_fromJson (fromJson_of_decode h)
  simp only [Envelope.fields, Shape.Fields.build_seq_eq_ok_iff,
    Shape.Fields.build_map_eq_ok_iff] at hbuild
  obtain ⟨_, result, ⟨_, message, ⟨status, hgivenStatus, rfl⟩, hgivenMessage, rfl⟩, hgivenResult,
    rfl⟩ := hbuild
  obtain rfl : status = "0" := hstatus
  refine ⟨givesText_of_build hgivenStatus, ⟨message, givesText_of_build hgivenMessage⟩, ?_⟩
  cases hgiven : Json.lookup "result" fields with
  | some v => rfl
  | none =>
    simp only [Shape.Fields.field, Shape.Fields.fieldOr, Shape.Fields.given?, hgiven,
      Option.map_none] at hgivenResult
    cases hgivenResult

theorem failure_of_mentions {e : Envelope} (h : Text.Mentions "rate limit" e.detail) :
    e.failure = .throttled e.detail := by
  have hsays : Envelope.saysRateLimit e.detail = true :=
    Text.occursIn_lowercase_of_mentions h (by simp)
  rw [Envelope.failure, if_pos hsays]

/-- What is made of the answer to a request. -/
def received (address : String) : Option HttpResponse → Except ExplorerFailure Json
  | none => .error (.network s!"error sending request for url ({address})")
  | some response =>
    if response.status = 429 then .error (.throttled response.body)
    else if response.status < 200 || 299 < response.status then
      .error (.api response.status response.body)
    else match Json.read? response.body with
      | some v => .ok v
      | none => .error (.network "error decoding response body")

namespace Client

variable {client : Client} {params : List (String × String)}
  {exchanges : List (Exchange web)}

/-- What is done with an answer asks nothing more. -/
theorem ends_received_iff {address : String} {answer : Option HttpResponse}
    {b : Except ExplorerFailure Json} :
    (match answer with
      | none => throw (.network s!"error sending request for url ({address})")
      | some response =>
        if response.status = 429 then throw (.throttled response.body)
        else if response.status < 200 || 299 < response.status then
          throw (.api response.status response.body)
        else match Json.read? response.body with
          | some v => return v
          | none => throw (.network "error decoding response body") : Query web Json).run.Ends
      exchanges b ↔ exchanges = [] ∧ b = received address answer := by
  unfold received
  cases answer with
  | none => exact ends_run_throw_iff
  | some response =>
    dsimp only
    split
    · exact ends_run_throw_iff
    split
    · exact ends_run_throw_iff
    cases Json.read? response.body with
    | none => exact ends_run_throw_iff
    | some v => exact ends_run_pure_iff

/-- A request is made once, to its target, if it has one. -/
theorem ends_request_iff {b : Except ExplorerFailure Json} :
    (client.request params).run.Ends exchanges b ↔
      (∃ f, client.target params = .error f ∧ exchanges = [] ∧ b = .error f) ∨
      ∃ address answer, client.target params = .ok address ∧
        exchanges = [⟨address, answer⟩] ∧ b = received address answer := by
  unfold request
  rw [ends_run_bind_iff]
  constructor
  · rintro (⟨address, first, rest, rfl, hfirst, hrest⟩ | ⟨f, hfirst, rfl⟩)
    · obtain ⟨rfl, htarget⟩ := ends_run_mk_pure_iff.1 hfirst
      obtain ⟨answer, more, rfl, hmore⟩ := ends_ask_iff.1 hrest
      obtain ⟨rfl, rfl⟩ := ends_received_iff.1 hmore
      exact .inr ⟨address, answer, htarget.symm, rfl, rfl⟩
    · obtain ⟨rfl, htarget⟩ := ends_run_mk_pure_iff.1 hfirst
      exact .inl ⟨f, htarget.symm, rfl, rfl⟩
  · rintro (⟨f, htarget, rfl, rfl⟩ | ⟨address, answer, htarget, rfl, rfl⟩)
    · exact .inr ⟨f, ends_run_mk_pure_iff.2 ⟨rfl, htarget.symm⟩, rfl⟩
    · refine .inl ⟨address, [], _, rfl, ends_run_mk_pure_iff.2 ⟨rfl, htarget.symm⟩, ?_⟩
      exact ends_ask_iff.2 ⟨answer, [], rfl, ends_received_iff.2 ⟨rfl, rfl⟩⟩

/-- A call that reads the body of one answer ends as this answer is taken. -/
theorem eq_of_ends_reading {α : Type} {read : Json → Except ExplorerFailure α}
    {b : Except ExplorerFailure α} (h : (do
        let body ← client.request params
        ExceptT.mk (pure (read body)) : Query web α).run.Ends exchanges b)
    {x : Exchange web} (hx : x ∈ exchanges) :
    exchanges = [x] ∧ b = (received x.1 x.2).bind read := by
  obtain ⟨body, hrequest, rfl⟩ := ends_run_bind_mk_pure_iff.1 h
  obtain ⟨f, -, rfl, -⟩ | ⟨address, answer, -, rfl, rfl⟩ := ends_request_iff.1 hrequest
  · cases hx
  · obtain rfl := List.mem_singleton.1 hx
    exact ⟨rfl, rfl⟩

/-- A call that reads the body of one answer has failed by that answer, if it is taken so. -/
theorem failsAt_reading {α : Type} {read : Json → Except ExplorerFailure α} {x : Exchange web}
    {f : ExplorerFailure} (h : (received x.1 x.2).bind read = .error f) :
    (do
        let body ← client.request params
        ExceptT.mk (pure (read body)) : Query web α).run.FailsAt x (· = f) := by
  refine failsAt_of_ends fun own rest b hends => ?_
  obtain ⟨halone, rfl⟩ := eq_of_ends_reading hends (List.mem_append_right _ List.mem_cons_self)
  obtain ⟨-, hrest⟩ | ⟨-, hempty⟩ := List.append_eq_singleton_iff.1 halone
  · exact ⟨(List.cons.inj hrest).2, f, rfl, h⟩
  · cases hempty

/-- Whatever the answer is, what it is taken for is what the call ends with. -/
theorem ends_reading {α : Type} (read : Json → Except ExplorerFailure α) {address : String}
    (htarget : client.target params = .ok address) (answer : Option HttpResponse) :
    (do
        let body ← client.request params
        ExceptT.mk (pure (read body)) : Query web α).run.Ends
      [⟨address, answer⟩] ((received address answer).bind read) :=
  ends_run_bind_mk_pure_iff.2 ⟨_, ends_request_iff.2 (.inr ⟨address, answer, htarget, rfl, rfl⟩),
    rfl⟩

theorem received_of_read? {address body : String} {v : Json} {status : Nat} (hleast : 200 ≤ status)
    (hgreatest : status ≤ 299) (hbody : Json.read? body = some v) :
    received address (some ⟨status, body⟩) = .ok v := by
  have hthrottled : status ≠ 429 := by omega
  have hsuccess : ¬ (decide (status < 200) || decide (299 < status)) := by
    simp only [Bool.or_eq_true, decide_eq_true_eq]
    omega
  simp only [received, if_neg hthrottled, if_neg hsuccess, hbody]

/-- A call for which envelopes that say so are failures is failed as throttled by every answer that
asks for fewer requests. -/
theorem received_bind_of_throttles {α : Type} {spared : Envelope → Bool} {words address : String}
    {response : HttpResponse} {read : Json → Except ExplorerFailure α}
    (hread : ∀ fields e, decode "ApiEnvelope" Envelope.fields (.obj fields) = .ok e →
      e.status = "0" → spared e = false → read (.obj fields) = .error e.failure)
    (h : response.Throttles spared words) :
    (received address (some response)).bind read = .error (.throttled words) := by
  cases h with
  | refuses body => rfl
  | @reports status body message fields result hleast hgreatest hbody hstatus hmessage hresult
      hmentions hspared =>
    have hdecode := decode_of_read? hbody hstatus hmessage hresult
    rw [received_of_read? hleast hgreatest hbody, ← failure_of_mentions hmentions]
    exact hread fields _ hdecode rfl hspared

/-- The height in a body, or the failure that it reports. -/
def heightOf (body : Json) : Except ExplorerFailure Int :=
  match heightFailure? body with
  | some e => .error e
  | none => readHeight body

theorem newestHeight_eq : client.newestHeight = (do
    let body ← client.request [("module", "proxy"), ("action", "eth_blockNumber")]
    ExceptT.mk (pure (heightOf body))) := by
  unfold newestHeight heightOf
  refine congrArg (_ >>= ·) (funext fun body => ?_)
  cases heightFailure? body <;> rfl

/-- The height is not told by an answer that asks for fewer requests. -/
theorem newestHeight_throttled {b : Except ExplorerFailure Int} {url words : String}
    {response : HttpResponse} (h : client.newestHeight.run.Ends exchanges b)
    (hx : ⟨url, some response⟩ ∈ exchanges)
    (hthrottles : response.Throttles (fun _ => false) words) : b = .error (.throttled words) := by
  rw [newestHeight_eq] at h
  obtain ⟨-, rfl⟩ := eq_of_ends_reading h hx
  apply received_bind_of_throttles ?_ hthrottles
  intro fields e hdecode hstatus _
  rw [heightOf, heightFailure?, hdecode]
  dsimp only
  rw [if_pos hstatus]

/-- Where there is an error of the remote procedure call, it is the failure, whatever it says. -/
theorem newestHeight_failsCall {b : Except ExplorerFailure Int} {url : String} {e : Json}
    {response : HttpResponse} (h : client.newestHeight.run.Ends exchanges b)
    (hx : ⟨url, some response⟩ ∈ exchanges) (hfails : response.FailsCall e) :
    b = .error (.api 200 e.render) := by
  rw [newestHeight_eq] at h
  obtain ⟨-, rfl⟩ := eq_of_ends_reading h hx
  cases hfails with
  | @errs status body fields _ hleast hgreatest hbody hreports herror hnull =>
    obtain ⟨result, hcall⟩ := decode_call_of_read? hbody herror hnull
    have hunreported : heightFailure? (.obj fields) = none := by
      unfold heightFailure?
      split
      · rename_i envelope hdecode
        exact if_neg fun hstatus => hreports (Envelope.reports_of_decode hdecode hstatus)
      · rfl
    rw [received_of_read? hleast hgreatest hbody]
    change heightOf (.obj fields) = _
    rw [heightOf, hunreported, readHeight, hcall]
    rfl

/-- A page of items has failed by an answer that asks for fewer requests. -/
theorem failsAt_itemPage {action address : String} {q : Listing} {number : Nat}
    {url words : String} {response : HttpResponse}
    (hthrottles : response.Throttles Envelope.isEmptyList words) :
    (client.itemPage action address q number).run.FailsAt ⟨url, some response⟩
      (· = .throttled words) := by
  refine failsAt_reading (received_bind_of_throttles ?_ hthrottles)
  intro fields e hdecode hstatus hlisted
  have hfailed : e.status ≠ "1" := by
    rw [hstatus]
    decide
  rw [readItems_of_decode hdecode, if_neg hfailed, if_neg (Bool.eq_false_iff.1 hlisted)]

/-- So has a list, whichever of its pages has that answer. -/
theorem failsAt_itemList (action address : String) (q : Listing) {url words : String}
    {response : HttpResponse} (hthrottles : response.Throttles Envelope.isEmptyList words) :
    (client.itemList action address q).run.FailsAt ⟨url, some response⟩ (· = .throttled words) :=
  failsAt_pagesFrom fun _ => failsAt_itemPage hthrottles

theorem itemList_throttled {action address : String} {q : Listing}
    {b : Except ExplorerFailure (List Json)} {url words : String} {response : HttpResponse}
    (h : (client.itemList action address q).run.Ends exchanges b)
    (hx : ⟨url, some response⟩ ∈ exchanges)
    (hthrottles : response.Throttles Envelope.isEmptyList words) :
    b = .error (.throttled words) := by
  obtain ⟨f, rfl, rfl⟩ := (failsAt_itemList action address q hthrottles).eq_error_of_mem h hx
  rfl

end Client

variable {client : Client} {inquiry : Inquiry} {exchanges : List (Exchange web)}
  {before after : List (Exchange web)} {url words : String} {response : HttpResponse}

theorem headHeight_throttled {answer : Fallible Int}
    (h : (headHeight client).Ends exchanges answer) (hx : ⟨url, some response⟩ ∈ exchanges)
    (hthrottles : response.Throttles (fun _ => false) words) :
    answer = .error (.throttled words) := by
  obtain ⟨height, hheight, rfl⟩ := ends_bind_done_iff.1 h
  rw [Client.newestHeight_throttled hheight hx hthrottles]
  rfl

/-- Of the two lists that are fetched side by side, either may have the answer, as long as none of
them has failed before for a cause of its own. -/
theorem fetch_throttled {answer : Fallible (List Event)}
    (h : (fetch client inquiry).Ends (before ++ ⟨url, some response⟩ :: after) answer)
    (hthrottles : response.Throttles Envelope.isEmptyList words)
    (hfirst : ∀ own f, own.Sublist before → Unlisted client inquiry own f →
      ∃ words, f = .throttled words) :
    ∃ words, answer = .error (.throttled words) := by
  obtain ⟨listed, hboth, rfl⟩ := ends_bind_done_iff.1 h
  have hlist (action : String) :
      (client.itemList action inquiry.identity (listingFor inquiry)).run.FailsAt
        ⟨url, some response⟩ fun f => ∃ words, f = .throttled words :=
    (Client.failsAt_itemList _ _ _ hthrottles).mono fun f hf => ⟨words, hf⟩
  obtain ⟨f, ⟨words, rfl⟩, rfl⟩ :=
    eq_error_of_ends_both (hlist "tokentx") (hlist "txlist") hfirst hboth
  exact ⟨words, rfl⟩

def heightUrl : String :=
  "http://a.b/?module=proxy&action=eth_blockNumber&apikey=key"

theorem target_height :
    Client.sample.target [("module", "proxy"), ("action", "eth_blockNumber")] = .ok heightUrl :=
  ok_of_toOption (by decide +kernel)

/-- What a throttled explorer says. -/
def limitWords : String :=
  "Max rate limit reached"

theorem mentions_limitWords : Text.Mentions "rate limit" limitWords :=
  ⟨"Max ".toList, "rate limit".toList, " reached".toList, by decide, by decide⟩

def limitBody : String :=
  "\x7b\"status\":\"0\",\"message\":\"NOTOK\",\"result\":\"Max rate limit reached\"\x7d"

theorem read?_limitBody : Json.read? limitBody =
    some (.obj [("message", .str "NOTOK"), ("result", .str limitWords), ("status", .str "0")]) := by
  cbv

theorem throttles_limitBody {spared : Envelope → Bool}
    (hspared : spared ⟨"0", "NOTOK", .str limitWords⟩ = false) :
    HttpResponse.Throttles spared ⟨200, limitBody⟩ limitWords :=
  .reports (by decide) (by decide) read?_limitBody rfl rfl rfl mentions_limitWords hspared

/-- The sample client is not told the newest block by a throttled explorer. -/
theorem ends_headHeight_limitBody :
    (headHeight .sample).Ends [⟨heightUrl, some ⟨200, limitBody⟩⟩]
      (.error (.throttled limitWords)) := by
  refine ends_bind_done_iff.2 ⟨.error (.throttled limitWords), ?_, rfl⟩
  rw [Client.newestHeight_eq]
  have hends := Client.ends_reading Client.heightOf target_height (some ⟨200, limitBody⟩)
  rwa [Client.received_of_read? (by decide) (by decide) read?_limitBody] at hends

/-- Where the page of the sample window is refused, the list is, and it asks for nothing more. -/
theorem ends_itemList_refused {action : String}
    (haction : action ∈ [tokenEndpoint, transactionEndpoint]) {response : HttpResponse}
    {f : ExplorerFailure} (hrefused : received (sampleUrl action) (some response) = .error f) :
    (Client.sample.itemList action "0xab" (.ofBlocks 100 109)).run.Ends
      [⟨sampleUrl action, some response⟩] (.error f) := by
  have hpage := Client.ends_reading (Client.readItems action) (target_sample haction)
    (some response)
  rw [hrefused] at hpage
  exact ends_pagesFrom_iff.2 (.failed hpage)

theorem ends_transfers_refused : (Client.sample.transfers "0xab" (.ofBlocks 100 109)).run.Ends
    [⟨sampleUrl tokenEndpoint, some ⟨429, "slow down"⟩⟩] (.error (.throttled "slow down")) :=
  ends_itemList_refused (by decide) rfl

theorem ends_transactions_refused :
    (Client.sample.transactions "0xab" (.ofBlocks 100 109)).run.Ends
      [⟨sampleUrl transactionEndpoint, some ⟨500, "out of order"⟩⟩]
      (.error (.api 500 "out of order")) :=
  ends_itemList_refused (by decide) rfl

/-- Side by side, the transfers are throttled, and the transactions fail right after. -/
theorem ends_fetch_refused : (fetch .sample sampleInquiry).Ends
    ([] ++ ⟨sampleUrl tokenEndpoint, some ⟨429, "slow down"⟩⟩ ::
      [⟨sampleUrl transactionEndpoint, some ⟨500, "out of order"⟩⟩])
    (.error (.throttled "slow down")) :=
  ends_bind_done_iff.2 ⟨.error (.throttled "slow down"),
    ends_both_of_error ends_transfers_refused ends_transactions_refused, rfl⟩

/-- Neither of the two lists fails before it has asked for anything. -/
theorem not_unlisted_nil (own : List (Exchange web)) (f : ExplorerFailure) (hown : own.Sublist [])
    (h : Unlisted .sample sampleInquiry own f) : ∃ words, f = .throttled words := by
  obtain rfl := List.sublist_nil.1 hown
  obtain h | h := h
  · exact absurd h (ends_transfers_refused.not_ends_nil _)
  · exact absurd h (ends_transactions_refused.not_ends_nil _)

end ChainCrawl.Explorer
