import ChainCrawl.Explorer.Client
import ChainCrawl.Proofs.Json.Object
import ChainCrawl.Proofs.Proc.Value
import ChainCrawl.Proofs.Shape.Given

namespace ChainCrawl.Explorer

open ChainCrawl.Json (Document)

/-- The envelope around a page of items: what it lists, or, around no items, that none were
found. -/
inductive Envelope.Holds (page : List Json) : Json → Prop where
  | listed (message : String) : Holds page
      (.obj [("message", .str message), ("result", .arr page), ("status", .str "1")])
  | none (result : Json) (hpage : page = []) : Holds page
      (.obj [("message", .str "No transactions found"), ("result", result), ("status", .str "0")])

/-- The answer is a success, and its body is an envelope around the page. -/
def HttpResponse.Shows (response : HttpResponse) (page : List Json) : Prop :=
  200 ≤ response.status ∧ response.status ≤ 299 ∧
    ∃ body, Json.read? response.body = some body ∧ Envelope.Holds page body

/-- A value that was read before is read as it is. -/
theorem json_ofJson {v : Json} (hordered : v.Ordered) (hdepth : v.depth ≤ Document.maxDepth) :
    Shape.json 0 (Document.ofJson v) = .ok v := by
  rw [Shape.json_ofJson hordered, if_pos (by omega)]

/-- The fields of an object that a text writes have names of their own, and each can be read by
itself. -/
theorem sorted_and_json_of_read? {s : String} {fields : List (String × Json)}
    (hread : Json.read? s = some (.obj fields)) :
    Json.Sorted fields ∧ ∀ name v, Json.lookup name fields = some v →
      Shape.json 0 (Document.ofJson v) = .ok v := by
  obtain ⟨d, -, hvalue⟩ := Option.bind_eq_some_iff.1 hread
  obtain ⟨⟨hsorted, hordered⟩, hdepth⟩ := Document.ordered_of_value? hvalue
  have hfields : Json.fieldsDepth fields ≤ Document.maxDepth :=
    Nat.le_trans (Nat.le_succ _) hdepth
  refine ⟨hsorted, fun name v hv => ?_⟩
  have hmem := Json.mem_of_lookup hv
  exact json_ofJson (Json.orderedFields_iff.1 hordered _ hmem)
    (Json.fieldsDepth_le_iff.1 hfields _ hmem)

/-- An object with the fields of an envelope is read as one, whatever else it holds. -/
theorem decode_of_lookup {fields : List (String × Json)} {message status : String} {result : Json}
    (hsorted : Json.Sorted fields) (hstatus : Json.lookup "status" fields = some (.str status))
    (hmessage : Json.lookup "message" fields = some (.str message))
    (hresult : Json.lookup "result" fields = some result)
    (hread : Shape.json 0 (Document.ofJson result) = .ok result) :
    decode "ApiEnvelope" Envelope.fields (.obj fields) = .ok ⟨status, message, result⟩ := by
  have hsound : ∀ field ∈ Envelope.fields.list, ∀ v, Json.lookup field.name fields = some v →
      field.check (Document.ofJson v) = .ok () := by
    intro field hfield v hv
    simp only [Envelope.fields, Shape.Fields.list_seq, Shape.Fields.list_map,
      Shape.Fields.list_field, List.cons_append, List.nil_append, List.mem_cons,
      List.not_mem_nil, or_false] at hfield
    obtain rfl | rfl | rfl := hfield
    · cases hstatus.symm.trans hv
      rfl
    · cases hmessage.symm.trans hv
      rfl
    · cases hresult.symm.trans hv
      simp only [hread]
      rfl
  have hbuild : Envelope.fields.build
      (fun field => (Json.lookup field fields).map Document.ofJson) =
        .ok ⟨status, message, result⟩ := by
    simp [Envelope.fields, Shape.Fields.build_seq, Shape.Fields.build_map,
      Shape.Fields.build_field_of_some, hstatus, hmessage, hresult, hread, Shape.text,
      Document.ofJson, Except.map, Except.bind]
  rw [decode, Shape.Fields.fromJson_of_obj hsorted hsound, hbuild]
  rfl

/-- The same of an object that a text writes. -/
theorem decode_of_read? {s : String} {fields : List (String × Json)} {message status : String}
    {result : Json} (hread : Json.read? s = some (.obj fields))
    (hstatus : Json.lookup "status" fields = some (.str status))
    (hmessage : Json.lookup "message" fields = some (.str message))
    (hresult : Json.lookup "result" fields = some result) :
    decode "ApiEnvelope" Envelope.fields (.obj fields) = .ok ⟨status, message, result⟩ := by
  obtain ⟨hsorted, hjson⟩ := sorted_and_json_of_read? hread
  exact decode_of_lookup hsorted hstatus hmessage hresult (hjson _ _ hresult)

/-- An object that a text writes is read as the answer of a remote procedure call, whatever it
holds, and an error in it that is not `null` is the error of the call. -/
theorem decode_call_of_read? {s : String} {fields : List (String × Json)} {e : Json}
    (hread : Json.read? s = some (.obj fields)) (herror : Json.lookup "error" fields = some e)
    (hnull : e ≠ .null) :
    ∃ result, decode "ProxyEnvelope" CallEnvelope.fields (.obj fields) = .ok ⟨result, some e⟩ := by
  obtain ⟨hsorted, hjson⟩ := sorted_and_json_of_read? hread
  have hsound : ∀ field ∈ CallEnvelope.fields.list, ∀ v, Json.lookup field.name fields = some v →
      field.check (Document.ofJson v) = .ok () := by
    intro field hfield v hv
    obtain ⟨o, ho⟩ := Shape.exists_orNull (hjson _ _ hv)
    simp only [CallEnvelope.fields, Shape.Fields.list_seq, Shape.Fields.list_map,
      Shape.Fields.list_optional, List.cons_append, List.nil_append, List.mem_cons,
      List.not_mem_nil, or_false] at hfield
    obtain rfl | rfl := hfield
    · simp only [ho]
      rfl
    · simp only [ho]
      rfl
  have hnotNull : Document.ofJson e ≠ .null := by
    cases e <;> simp [Document.ofJson] at hnull ⊢
  have hgiven : Shape.orNull (Shape.json 0) (Document.ofJson e) = .ok (some e) :=
    Shape.orNull_of_ok hnotNull (hjson _ _ herror)
  obtain ⟨result, hresult⟩ : ∃ result, (Shape.Fields.optional "result"
      (Shape.orNull (Shape.json 0))).build
        (fun field => (Json.lookup field fields).map Document.ofJson) = .ok result := by
    cases hv : Json.lookup "result" fields with
    | none => exact ⟨none, by simp [Shape.Fields.optional, Shape.Fields.fieldOr, hv]⟩
    | some v =>
      obtain ⟨o, ho⟩ := Shape.exists_orNull (hjson _ _ hv)
      exact ⟨o, by simp [Shape.Fields.optional, Shape.Fields.fieldOr, hv, ho]⟩
  have hbuild : CallEnvelope.fields.build
      (fun field => (Json.lookup field fields).map Document.ofJson) = .ok ⟨result, some e⟩ := by
    rw [CallEnvelope.fields, Shape.Fields.build_seq, Shape.Fields.build_map, hresult]
    simp [Shape.Fields.optional, Shape.Fields.fieldOr, herror, hgiven, Except.map, Except.bind]
  refine ⟨result, ?_⟩
  rw [decode, Shape.Fields.fromJson_of_obj hsorted hsound, hbuild]
  rfl

theorem decode_envelope {message status : String} {result : Json}
    (hresult : Shape.json 0 (Document.ofJson result) = .ok result) :
    decode "ApiEnvelope" Envelope.fields
      (.obj [("message", .str message), ("result", result), ("status", .str status)]) =
      .ok ⟨status, message, result⟩ := by
  have hsorted : Json.Sorted
      [("message", .str message), ("result", result), ("status", .str status)] := by
    have hnames : ["message", "result", "status"].Pairwise (· < ·) := by decide
    exact List.pairwise_map.1 hnames
  exact decode_of_lookup hsorted (by simp) (by simp) (by simp) hresult

namespace Client

theorem readItems_of_decode {body : Json} {e : Envelope}
    (h : decode "ApiEnvelope" Envelope.fields body = .ok e) (action : String) :
    readItems action body =
      if e.status = "1" then
        match e.result with
        | .arr items => .ok items
        | other => .error (.parse s!"{action}: expected array result, got {other.render}")
      else if e.isEmptyList then .ok []
      else .error e.failure := by
  rw [readItems, h]
  rfl

/-- No premise on the action is needed: it only names the request in a failure. -/
theorem readItems_of_holds {page : List Json} {body : Json} (h : Envelope.Holds page body)
    (hordered : body.Ordered) (hdepth : body.depth ≤ Document.maxDepth) (action : String) :
    readItems action body = .ok page := by
  cases h with
  | listed message =>
    have hresult : Shape.json 0 (Document.ofJson (.arr page)) = .ok (.arr page) := by
      obtain ⟨-, -, hpage, -⟩ := hordered
      apply json_ofJson hpage
      simp only [Json.depth, Json.fieldsDepth] at hdepth ⊢
      omega
    rw [readItems_of_decode (decode_envelope hresult), if_pos rfl]
  | none result hpage =>
    have hresult : Shape.json 0 (Document.ofJson result) = .ok result := by
      obtain ⟨-, -, hresult, -⟩ := hordered
      apply json_ofJson hresult
      simp only [Json.depth, Json.fieldsDepth] at hdepth
      omega
    have hempty : Envelope.isEmptyList ⟨"0", "No transactions found", result⟩ = true := by
      simp [Envelope.isEmptyList]
    have hstatus : ¬ ("0" : String) = "1" := by decide
    rw [readItems_of_decode (decode_envelope hresult), if_neg hstatus, if_pos hempty, hpage]

variable {client : Client} {explorer : String → Option HttpResponse}

theorem value_request {params : List (String × String)} {address : String}
    {response : HttpResponse} {body : Json} (htarget : client.target params = .ok address)
    (hanswer : explorer address = some response) (hleast : 200 ≤ response.status)
    (hgreatest : response.status ≤ 299) (hbody : Json.read? response.body = some body) :
    (client.request params).run.value explorer = .ok body := by
  unfold request
  refine Eq.trans (Proc.value_run_bind_of_ok (a := address) ?_) ?_
  · rw [htarget]
    rfl
  · refine Eq.trans (Proc.value_run_bind_of_ok (a := some response) ?_) ?_
    · change Except.ok (explorer address) = _
      rw [hanswer]
    · have hthrottled : response.status ≠ 429 := by omega
      have hsuccess : ¬ (decide (response.status < 200) || decide (299 < response.status)) := by
        simp only [Bool.or_eq_true, decide_eq_true_eq]
        omega
      simp only [if_neg hthrottled, if_neg hsuccess, hbody]
      rfl

/-- A page that the explorer shows is read. -/
theorem value_itemPage {action address : String} {q : Listing} {number : Nat} {url : String}
    {response : HttpResponse} {page : List Json}
    (htarget : client.target (pageParams action address q number) = .ok url)
    (hanswer : explorer url = some response) (hshows : response.Shows page) :
    (client.itemPage action address q number).run.value explorer = .ok page := by
  obtain ⟨hleast, hgreatest, body, hbody, hholds⟩ := hshows
  obtain ⟨d, -, hvalue⟩ := Option.bind_eq_some_iff.1 hbody
  obtain ⟨hordered, hdepth⟩ := Document.ordered_of_value? hvalue
  have hrequest := value_request htarget hanswer hleast hgreatest hbody
  unfold itemPage
  refine Eq.trans (Proc.value_run_bind_of_ok hrequest) ?_
  rw [readItems_of_holds hholds hordered hdepth]
  rfl

end Client

end ChainCrawl.Explorer
