import ChainCrawl.Proofs.Explorer.Throttling
import ChainCrawl.Proofs.Json.RoundTrip
import ChainCrawl.Proofs.Poller.Outcome

namespace ChainCrawl

open Proc

variable {exchanges : List (Exchange surroundings)} {x : Exchange surroundings} {e : Failure}

/-- A delivery whose fetch fails asks for nothing more. -/
theorem Router.eq_error_of_unfetched {router : Router} {inquiry p : Inquiry}
    {adapter : AdapterRef} {b : Fallible Delivery}
    (h : (router.deliver inquiry).run.Ends exchanges b)
    (hfetch : ⟨.fetch adapter p, .error e⟩ ∈ exchanges) : b = .error e := by
  obtain ⟨e', -, rfl, -⟩ | ⟨adapter', -, ⟨e', rfl, rfl⟩ | ⟨events, more, rfl, hmore⟩⟩ :=
    ends_deliver_iff.1 h
  · cases hfetch
  · cases List.mem_singleton.1 hfetch
    rfl
  · have hsifted : ∀ {sifting b}, (recordsOf adapter' inquiry events).run.Ends sifting b →
        ⟨.fetch adapter p, .error e⟩ ∉ sifting := by
      intro sifting b hsifting hmem
      obtain ⟨event, hrequest⟩ | ⟨entry, hrequest⟩ := request_of_ends_recordsOf hsifting _ hmem
      · cases hrequest
      · cases hrequest
    obtain heq | hfetch := List.mem_cons.1 hfetch
    · cases heq
    obtain ⟨d, sifting, rest, stored, rfl, hsifting, hstored, -⟩ | ⟨e', hsifting, -⟩ := hmore
    · obtain hfetch | hfetch := List.mem_append.1 hfetch
      · exact absurd hfetch (hsifted hsifting)
      · obtain ⟨-, rfl, -⟩ | ⟨-, answer, rfl, -⟩ := ends_addBatch_iff.1 hstored
        · cases hfetch
        · cases List.mem_singleton.1 hfetch
    · exact absurd hfetch (hsifted hsifting)

namespace Poller

variable {loop : Poller} {outcome : CycleEnd}

/-- What an exchange fails its cycle for, if it does so as the chain or an adapter has it. -/
def refusal? (loop : Poller) : Exchange surroundings → Option Failure
  | ⟨.headHeight _, .error e⟩ => some (loop.finality.failure e)
  | ⟨.fetch _ _, .error e⟩ => some e
  | _ => none

theorem refusal?_of_givingUp {c : Cursor} {cause : Failure} (h : loop.GivingUp c cause exchanges)
    (hx : x ∈ exchanges) : loop.refusal? x = none := by
  obtain ⟨r, answer⟩ := x
  obtain hrequest | ⟨entry, hrequest⟩ := request_of_givingUp h _ hx
  · obtain rfl : r = _ := hrequest
    rfl
  · obtain rfl : r = _ := hrequest
    rfl

theorem refusal?_of_approach {stored : Option Cursor} {c : Cursor}
    (h : loop.Approach stored c exchanges) (hx : x ∈ exchanges) : loop.refusal? x = none := by
  cases h with
  | atOnce =>
    obtain rfl := List.mem_singleton.1 hx
    rfl
  | afterPause =>
    simp only [List.mem_cons, List.not_mem_nil, or_false] at hx
    obtain rfl | rfl | rfl := hx <;> rfl

/-- A look at the newest block that is refused ends the survey. -/
theorem eq_error_of_refusal_in_survey {b : Fallible Intent} (h : loop.Survey exchanges b)
    (hx : x ∈ exchanges) (hrefusal : loop.refusal? x = some e) : b = .error e := by
  cases h with
  | unloaded | crossed =>
    obtain rfl := List.mem_singleton.1 hx
    cases hrefusal
  | unseen cause happroach hclosing =>
    obtain hx | hx := List.mem_append.1 hx
    · cases (refusal?_of_approach happroach hx).symm.trans hrefusal
    obtain rfl | hx := List.mem_cons.1 hx
    · exact congrArg Except.error (Option.some.inj hrefusal)
    · cases (refusal?_of_givingUp hclosing hx).symm.trans hrefusal
  | ready head happroach =>
    obtain hx | hx := List.mem_append.1 hx
    · cases (refusal?_of_approach happroach hx).symm.trans hrefusal
    · obtain rfl := List.mem_singleton.1 hx
      cases hrefusal
  | early =>
    simp only [List.mem_cons, List.not_mem_nil, or_false] at hx
    obtain rfl | rfl | rfl | rfl := hx <;> cases hrefusal

/-- A delivery looks at no block, so what refuses it is its fetch. -/
theorem eq_error_of_refusal_in_deliver {router : Router} {inquiry : Inquiry}
    {b : Fallible Delivery} (h : (router.deliver inquiry).run.Ends exchanges b)
    (hx : x ∈ exchanges) (hrefusal : loop.refusal? x = some e) : b = .error e := by
  obtain ⟨r, answer⟩ := x
  cases r with
  | fetch adapter p =>
    cases answer with
    | error e' =>
      obtain rfl : e' = e := Option.some.inj hrefusal
      exact Router.eq_error_of_unfetched h hx
    | ok events => cases hrefusal
  | headHeight network =>
    obtain hread | ⟨batch, hbatch⟩ := Router.request_of_ends_deliver h _ hx
    · exact hread.elim
    · cases hbatch
  | _ => cases hrefusal

/-- A cycle that is refused fails for what it was refused. -/
theorem failed_of_refusal (h : loop.cycle.Ends exchanges outcome) (hx : x ∈ exchanges)
    (hrefusal : loop.refusal? x = some e) : outcome = .failed e := by
  cases ends_cycle_iff.1 h with
  | aimless hintent =>
    cases eq_error_of_refusal_in_survey (ends_intent_iff.1 hintent) hx hrefusal
    rfl
  | stopped hintent =>
    cases eq_error_of_refusal_in_survey (ends_intent_iff.1 hintent) hx hrefusal
  | waited hintent saved =>
    obtain hx | hx := List.mem_append.1 hx
    · cases eq_error_of_refusal_in_survey (ends_intent_iff.1 hintent) hx hrefusal
    · obtain rfl := List.mem_singleton.1 hx
      cases hrefusal
  | undelivered hintent hdeliver hclosing =>
    obtain hx | hx := List.mem_append.1 hx
    · cases eq_error_of_refusal_in_survey (ends_intent_iff.1 hintent) hx hrefusal
    obtain hx | hx := List.mem_append.1 hx
    · cases eq_error_of_refusal_in_deliver hdeliver hx hrefusal
      rfl
    · cases (refusal?_of_givingUp hclosing hx).symm.trans hrefusal
  | delivered hintent hdeliver saved =>
    obtain hx | hx := List.mem_append.1 hx
    · cases eq_error_of_refusal_in_survey (ends_intent_iff.1 hintent) hx hrefusal
    obtain hx | hx := List.mem_append.1 hx
    · cases eq_error_of_refusal_in_deliver hdeliver hx hrefusal
    · obtain rfl := List.mem_singleton.1 hx
      cases hrefusal

/-- The request of the exchange was made of an explorer, and one of the answers of the explorer asks
for fewer requests. -/
inductive Throttled (client : Explorer.Client) : Exchange surroundings → Prop where
  | look {network : Network} {answer : Fallible Int} {web : List (Exchange Explorer.web)}
      {url words : String} {response : Explorer.HttpResponse}
      (hlook : (Explorer.headHeight client).Ends web answer) (hmem : ⟨url, some response⟩ ∈ web)
      (hthrottles : response.Throttles (fun _ => false) words) :
      Throttled client ⟨.headHeight network, answer⟩
  /-- Either list of the fetch may have the answer, if none of them has failed before for a cause of
  its own. -/
  | fetch {adapter : AdapterRef} {inquiry : Inquiry} {answer : Fallible (List Event)}
      {before after : List (Exchange Explorer.web)} {url words : String}
      {response : Explorer.HttpResponse}
      (hfetch : (Explorer.fetch client inquiry).Ends (before ++ ⟨url, some response⟩ :: after)
        answer)
      (hthrottles : response.Throttles Explorer.Envelope.isEmptyList words)
      (hfirst : ∀ own f, own.Sublist before → Explorer.Unlisted client inquiry own f →
        ∃ words, f = .throttled words) : Throttled client ⟨.fetch adapter inquiry, answer⟩

theorem exists_refusal?_of_throttled {client : Explorer.Client} (h : Throttled client x) :
    ∃ words, loop.refusal? x = some (.throttled words) := by
  cases h with
  | look hlook hmem hthrottles =>
    rw [Explorer.headHeight_throttled hlook hmem hthrottles]
    exact ⟨_, rfl⟩
  | fetch hfetch hthrottles hfirst =>
    obtain ⟨words, rfl⟩ := Explorer.fetch_throttled hfetch hthrottles hfirst
    exact ⟨words, rfl⟩

/-- The error of a remote procedure call that fails for too many requests. -/
def callError : Json :=
  .obj [("code", .int (-32005)), ("message", .str "rate limit exceeded")]

def callBody : String :=
  "\x7b\"error\":\x7b\"code\":-32005,\"message\":\"rate limit exceeded\"\x7d," ++
    "\"id\":1,\"jsonrpc\":\"2.0\"\x7d"

theorem read?_callBody : Json.read? callBody =
    some (.obj [("error", callError), ("id", .int 1), ("jsonrpc", .str "2.0")]) := by
  let answer : Json := .obj [("error", callError), ("id", .int 1), ("jsonrpc", .str "2.0")]
  have hwhole : answer.Whole := by
    simp [answer, callError, Json.Whole, Json.WholeFields, Word.minInt64, Word.maxUInt64]
  have hordered : answer.Ordered := by
    refine ⟨?_, ⟨?_, trivial, trivial, trivial⟩, trivial, trivial, trivial⟩
    · have hnames : ["error", "id", "jsonrpc"].Pairwise (· < ·) := by decide
      exact List.pairwise_map.1 hnames
    · have hnames : ["code", "message"].Pairwise (· < ·) := by decide
      exact List.pairwise_map.1 hnames
  have hdepth : answer.depth ≤ Json.Document.maxDepth := by decide
  have hrender : callBody = answer.render := by decide +kernel
  rw [hrender]
  exact Json.read?_render hwhole hordered hdepth

theorem mentions_callError : Text.Mentions "rate limit" callError.render := by
  have hrender : callError.render =
      "\x7b\"code\":-32005,\"message\":\"rate limit exceeded\"\x7d" := by
    decide +kernel
  rw [hrender]
  exact ⟨"\x7b\"code\":-32005,\"message\":\"".toList, "rate limit".toList,
    " exceeded\"\x7d".toList, by decide, by decide⟩

theorem failsCall_callBody : Explorer.HttpResponse.FailsCall ⟨200, callBody⟩ callError := by
  have hreports : ¬ Explorer.Envelope.Reports
      [("error", callError), ("id", .int 1), ("jsonrpc", .str "2.0")] := by
    rintro ⟨hstatus, -⟩
    simp [Json.lookup_eq_none] at hstatus
  have hnull : callError ≠ .null := by
    rintro ⟨⟩
  exact .errs (by decide) (by decide) read?_callBody hreports rfl hnull

/-- The chain asks the sample source for fewer requests. -/
def throttledLook : List (Exchange surroundings) :=
  [loading (.of .sample .sample) (.ok none),
    looking (.of .sample .sample) (.error (.throttled Explorer.limitWords)),
    saving (Cursor.ofSource .sample).shrunk (.ok ())]

/-- The explorer does so when the first window is fetched. -/
def throttledFetch : List (Exchange surroundings) :=
  [loading (.of .sample .sample) (.ok none), looking (.of .sample .sample) (.ok 121),
    ⟨.fetch ⟨0, "sample"⟩ Explorer.sampleInquiry, .error (.throttled "slow down")⟩,
    saving (Cursor.ofSource .sample).shrunk (.ok ())]

/-- A report that says so in its message and has no result, as it is sent. -/
def messageBody : String :=
  "\x7b\"status\":\"0\",\"message\":\"Max rate limit reached\",\"result\":null\x7d"

/-- A report that says so in its result, but whose message is that there is nothing to list. -/
def nothingBody : String :=
  "\x7b\"status\":\"0\",\"message\":\"No transactions found\"," ++
    "\"result\":\"Max rate limit reached\"\x7d"

theorem read?_messageBody : Json.read? messageBody =
    some (.obj [("message", .str Explorer.limitWords), ("result", .null),
      ("status", .str "0")]) := by
  cbv

theorem read?_nothingBody : Json.read? nothingBody =
    some (.obj [("message", .str "No transactions found"), ("result", .str Explorer.limitWords),
      ("status", .str "0")]) := by
  cbv

theorem ends_page_sample {body : String} {v : Json} (hbody : Json.read? body = some v) :
    (Explorer.Client.sample.itemPage Explorer.transactionEndpoint "0xab" (.ofBlocks 100 109)
      1).run.Ends [⟨Explorer.sampleUrl Explorer.transactionEndpoint, some ⟨200, body⟩⟩]
      (Explorer.Client.readItems Explorer.transactionEndpoint v) := by
  have haction : Explorer.transactionEndpoint ∈
      [Explorer.tokenEndpoint, Explorer.transactionEndpoint] := by decide
  have hends := Explorer.Client.ends_reading
    (Explorer.Client.readItems Explorer.transactionEndpoint) (Explorer.target_sample haction)
    (some ⟨200, body⟩)
  rwa [Explorer.Client.received_of_read? (by decide) (by decide) hbody] at hends

end Poller

end ChainCrawl
