import ChainCrawl.Explorer.EventRecord
import ChainCrawl.Proofs.Record.Basic

namespace ChainCrawl.Explorer

/-- An item with this hash and time stamp can be told apart and dated. -/
def IsDated (hash timeStamp : String) : Prop :=
  hash.isEmpty = false ∧ (readTimeStamp timeStamp).isSome

/-- A transfer that becomes a record: it has a place in its transaction's log, and its decimals, if
it states any, are possible. -/
def Transfer.Accepted (transfer : Transfer) (logIndex : String) : Prop :=
  transfer.logIndex = some logIndex ∧
    (statedDecimals transfer).filter (mostDecimals < ·) = none ∧
    IsDated transfer.hash transfer.timeStamp

/-- An event becomes a record, for some inquiry, at some time, with some tokens known. -/
def Becomes (network : Network) (event : Event) : Prop :=
  ∃ cache ticks now inquiry r, (recordOf network cache ticks now inquiry event).1 = .ok r

variable {network : Network} {cache : TokenCache} {ticks : Nat} {now : Time.Instant}
  {inquiry : Inquiry} {proof hash timeStamp : String} {payload : Json} {r : ActivityRecord}

theorem isDated_of_bareRecord (h : bareRecord inquiry network proof hash timeStamp now = .ok r) :
    IsDated hash timeStamp ∧ r.identifier = ActivityRecord.identifierOf network proof := by
  unfold bareRecord at h
  split at h
  · cases h
  · rename_i hhash
    split at h
    · cases h
    · rename_i createdAt htime
      obtain rfl := Except.ok.inj h
      refine ⟨⟨by simpa using hhash, by rw [htime]; rfl⟩, ?_⟩
      cases inquiry.platform <;> rfl

theorem exists_bareRecord (h : IsDated hash timeStamp) :
    ∃ r, bareRecord inquiry network proof hash timeStamp now = .ok r := by
  obtain ⟨hhash, htime⟩ := h
  obtain ⟨createdAt, hcreatedAt⟩ := Option.isSome_iff_exists.1 htime
  simp only [bareRecord, hhash, hcreatedAt]
  exact ⟨_, rfl⟩

/-- A record that was made bare is dated by the time stamp. -/
theorem readTimeStamp_of_bareRecord
    (h : bareRecord inquiry network proof hash timeStamp now = .ok r) :
    readTimeStamp timeStamp = some r.createdAt := by
  unfold bareRecord at h
  split at h
  · cases h
  · split at h
    · cases h
    · rename_i createdAt htime
      obtain rfl := Except.ok.inj h
      rw [htime]
      cases inquiry.platform <;> rfl

@[simp]
theorem identifier_withToken (value : String) (token : TokenDetails) :
    (withToken r value token).identifier = r.identifier := by
  unfold withToken
  cases inUnits? value token.decimals <;> cases token.name <;> simp

@[simp]
theorem createdAt_withToken (value : String) (token : TokenDetails) :
    (withToken r value token).createdAt = r.createdAt := by
  unfold withToken
  cases inUnits? value token.decimals <;> cases token.name <;> simp

/-- What is added to the bare record of a transfer changes neither its identifier nor its date. -/
theorem bareRecord_of_transferRecord {endpoint logIndex : String} {transfer : Transfer}
    {token : Option TokenDetails}
    (h : transferRecord network inquiry endpoint now transfer logIndex token = .ok r) :
    ∃ bare, bareRecord inquiry network (transfer.hash ++ "-" ++ logIndex) transfer.hash
        transfer.timeStamp now = .ok bare ∧
      r.identifier = bare.identifier ∧ r.createdAt = bare.createdAt := by
  unfold transferRecord at h
  cases hbare : bareRecord inquiry network (transfer.hash ++ "-" ++ logIndex) transfer.hash
      transfer.timeStamp now with
  | error e =>
    rw [hbare] at h
    cases h
  | ok bare =>
    rw [hbare] at h
    obtain rfl := Except.ok.inj h
    refine ⟨bare, rfl, ?_⟩
    cases token <;> simp

theorem isDated_of_transferRecord {endpoint logIndex : String} {transfer : Transfer}
    {token : Option TokenDetails}
    (h : transferRecord network inquiry endpoint now transfer logIndex token = .ok r) :
    IsDated transfer.hash transfer.timeStamp ∧
      r.identifier = ActivityRecord.identifierOf network (transfer.hash ++ "-" ++ logIndex) := by
  obtain ⟨bare, hbare, hsame, -⟩ := bareRecord_of_transferRecord h
  obtain ⟨hdated, hidentifier⟩ := isDated_of_bareRecord hbare
  exact ⟨hdated, hsame.trans hidentifier⟩

theorem exists_transferRecord {endpoint logIndex : String} {transfer : Transfer}
    {token : Option TokenDetails} (h : IsDated transfer.hash transfer.timeStamp) :
    ∃ r, transferRecord network inquiry endpoint now transfer logIndex token = .ok r := by
  obtain ⟨bare, hbare⟩ := @exists_bareRecord network now inquiry
    (transfer.hash ++ "-" ++ logIndex) _ _ h
  unfold transferRecord
  rw [hbare]
  exact ⟨_, rfl⟩

theorem tokenDetails_of_filter_none {transfer : Transfer}
    (h : (statedDecimals transfer).filter (mostDecimals < ·) = none) :
    ∃ token, (tokenDetails cache ticks transfer).1 = .ok token := by
  simp only [tokenDetails, h]
  cases statedDetails transfer with
  | none => exact ⟨_, rfl⟩
  | some details => exact ⟨_, rfl⟩

theorem filter_none_of_tokenDetails {transfer : Transfer} {token : Option TokenDetails}
    (h : (tokenDetails cache ticks transfer).1 = .ok token) :
    (statedDecimals transfer).filter (mostDecimals < ·) = none := by
  cases hdecimals : (statedDecimals transfer).filter (mostDecimals < ·) with
  | none => rfl
  | some decimals =>
    simp only [tokenDetails, hdecimals] at h
    cases h

theorem fst_recordOfTransfer {endpoint logIndex : String} {transfer : Transfer}
    (hdecode : Transfer.decode payload = .ok transfer) (hlog : transfer.logIndex = some logIndex) :
    (recordOfTransfer network cache ticks now inquiry ⟨endpoint, payload⟩).1 =
      (tokenDetails cache ticks transfer).1.bind
        (transferRecord network inquiry endpoint now transfer logIndex) := by
  simp only [recordOfTransfer, hdecode, hlog]
  rcases tokenDetails cache ticks transfer with ⟨e | token, kept⟩ <;> rfl

/-- Only events of the two endpoints become records. -/
theorem endpoint_of_recordOf {endpoint : String}
    (h : (recordOf network cache ticks now inquiry ⟨endpoint, payload⟩).1 = .ok r) :
    endpoint = tokenEndpoint ∨ endpoint = transactionEndpoint := by
  by_cases htoken : endpoint = tokenEndpoint
  · exact .inl htoken
  · by_cases htransaction : endpoint = transactionEndpoint
    · exact .inr htransaction
    · rw [recordOf, if_neg htoken, if_neg htransaction] at h
      cases h

/-- The record of a transfer is made of what its item says and what is known of its token. -/
theorem transferRecord_of_recordOf
    (h : (recordOf network cache ticks now inquiry ⟨tokenEndpoint, payload⟩).1 = .ok r) :
    ∃ transfer logIndex token, Transfer.decode payload = .ok transfer ∧
      transfer.logIndex = some logIndex ∧ (tokenDetails cache ticks transfer).1 = .ok token ∧
      transferRecord network inquiry tokenEndpoint now transfer logIndex token = .ok r := by
  rw [recordOf, if_pos rfl] at h
  cases hdecode : Transfer.decode payload with
  | error e =>
    simp only [recordOfTransfer, hdecode] at h
    cases h
  | ok transfer =>
    cases hlog : transfer.logIndex with
    | none =>
      simp only [recordOfTransfer, hdecode, hlog] at h
      cases h
    | some logIndex =>
      rw [fst_recordOfTransfer hdecode hlog] at h
      cases htoken : (tokenDetails cache ticks transfer).1 with
      | error e =>
        rw [htoken] at h
        cases h
      | ok token =>
        rw [htoken] at h
        exact ⟨transfer, logIndex, token, rfl, hlog, htoken, h⟩

/-- A transfer that became a record is one that is accepted. -/
theorem accepted_of_recordOf
    (h : (recordOf network cache ticks now inquiry ⟨tokenEndpoint, payload⟩).1 = .ok r) :
    ∃ transfer logIndex, Transfer.decode payload = .ok transfer ∧ transfer.Accepted logIndex ∧
      r.identifier = ActivityRecord.identifierOf network (transfer.hash ++ "-" ++ logIndex) := by
  obtain ⟨transfer, logIndex, token, hdecode, hlog, htoken, hmade⟩ := transferRecord_of_recordOf h
  obtain ⟨hdated, hidentifier⟩ := isDated_of_transferRecord hmade
  exact ⟨transfer, logIndex, hdecode, ⟨hlog, filter_none_of_tokenDetails htoken, hdated⟩,
    hidentifier⟩

/-- An accepted transfer becomes a record, whatever is known of tokens. -/
theorem exists_recordOf_of_accepted {transfer : Transfer} {logIndex : String}
    (hdecode : Transfer.decode payload = .ok transfer) (h : transfer.Accepted logIndex) :
    ∃ r, (recordOf network cache ticks now inquiry ⟨tokenEndpoint, payload⟩).1 = .ok r := by
  obtain ⟨hlog, hdecimals, hdated⟩ := h
  obtain ⟨token, htoken⟩ := @tokenDetails_of_filter_none cache ticks _ hdecimals
  rw [recordOf, if_pos rfl, fst_recordOfTransfer hdecode hlog, htoken]
  exact exists_transferRecord hdated

theorem recordOf_transaction :
    (recordOf network cache ticks now inquiry ⟨transactionEndpoint, payload⟩).1 =
      recordOfTransaction network now inquiry ⟨transactionEndpoint, payload⟩ := by
  have hne : transactionEndpoint ≠ tokenEndpoint := by decide
  rw [recordOf, if_neg hne, if_pos rfl]

/-- What is added to the bare record of a transaction changes neither its identifier nor its
date. -/
theorem bareRecord_of_recordOfTransaction {event : Event}
    (h : recordOfTransaction network now inquiry event = .ok r) :
    ∃ tx bare, Transaction.decode event.payload = .ok tx ∧
      bareRecord inquiry network tx.hash tx.hash tx.timeStamp now = .ok bare ∧
      r.identifier = bare.identifier ∧ r.createdAt = bare.createdAt := by
  unfold recordOfTransaction at h
  cases hdecode : Transaction.decode event.payload with
  | error e =>
    simp only [hdecode] at h
    cases h
  | ok tx =>
    simp only [hdecode] at h
    cases hbare : bareRecord inquiry network tx.hash tx.hash tx.timeStamp now with
    | error e =>
      rw [hbare] at h
      cases h
    | ok bare =>
      rw [hbare] at h
      obtain rfl := Except.ok.inj h
      refine ⟨tx, bare, rfl, hbare, ?_⟩
      cases inUnits? tx.value 18 <;> cases tx.functionName.filter (!·.isEmpty) <;> simp

/-- A transaction that became a record can be told apart and dated. -/
theorem isDated_of_recordOf
    (h : (recordOf network cache ticks now inquiry ⟨transactionEndpoint, payload⟩).1 = .ok r) :
    ∃ tx, Transaction.decode payload = .ok tx ∧ IsDated tx.hash tx.timeStamp ∧
      r.identifier = ActivityRecord.identifierOf network tx.hash := by
  rw [recordOf_transaction] at h
  obtain ⟨tx, bare, hdecode, hbare, hsame, -⟩ := bareRecord_of_recordOfTransaction h
  obtain ⟨hdated, hidentifier⟩ := isDated_of_bareRecord hbare
  exact ⟨tx, hdecode, hdated, hsame.trans hidentifier⟩

theorem exists_recordOf_of_isDated {tx : Transaction}
    (hdecode : Transaction.decode payload = .ok tx) (h : IsDated tx.hash tx.timeStamp) :
    ∃ r, (recordOf network cache ticks now inquiry ⟨transactionEndpoint, payload⟩).1 = .ok r := by
  obtain ⟨bare, hbare⟩ := @exists_bareRecord network now inquiry tx.hash _ _ h
  rw [recordOf_transaction, recordOfTransaction]
  simp only [hdecode, hbare]
  exact ⟨_, rfl⟩

theorem malformed_of_bareRecord {e : Failure}
    (h : bareRecord inquiry network proof hash timeStamp now = .error e) :
    ∃ reason, e = .malformed reason := by
  unfold bareRecord at h
  split at h
  · cases h
    exact ⟨_, rfl⟩
  · split at h
    · cases h
      exact ⟨_, rfl⟩
    · cases h

theorem malformed_of_transferRecord {endpoint logIndex : String} {transfer : Transfer}
    {token : Option TokenDetails} {e : Failure}
    (h : transferRecord network inquiry endpoint now transfer logIndex token = .error e) :
    ∃ reason, e = .malformed reason := by
  unfold transferRecord at h
  cases hbare : bareRecord inquiry network (transfer.hash ++ "-" ++ logIndex) transfer.hash
      transfer.timeStamp now with
  | error e' =>
    rw [hbare] at h
    cases h
    exact malformed_of_bareRecord hbare
  | ok bare =>
    rw [hbare] at h
    cases h

theorem malformed_of_tokenDetails {transfer : Transfer} {e : Failure}
    (h : (tokenDetails cache ticks transfer).1 = .error e) : ∃ reason, e = .malformed reason := by
  cases hdecimals : (statedDecimals transfer).filter (mostDecimals < ·) with
  | some decimals =>
    simp only [tokenDetails, hdecimals] at h
    cases h
    exact ⟨_, rfl⟩
  | none =>
    obtain ⟨token, htoken⟩ := @tokenDetails_of_filter_none cache ticks transfer hdecimals
    cases h.symm.trans htoken

theorem malformed_of_recordOfTransfer {event : Event} {e : Failure}
    (h : (recordOfTransfer network cache ticks now inquiry event).1 = .error e) :
    ∃ reason, e = .malformed reason := by
  cases hdecode : Transfer.decode event.payload with
  | error fault =>
    simp only [recordOfTransfer, hdecode] at h
    cases h
    exact ⟨_, rfl⟩
  | ok transfer =>
    cases hlog : transfer.logIndex with
    | none =>
      simp only [recordOfTransfer, hdecode, hlog] at h
      cases h
      exact ⟨_, rfl⟩
    | some logIndex =>
      rw [fst_recordOfTransfer hdecode hlog] at h
      cases htoken : (tokenDetails cache ticks transfer).1 with
      | error e' =>
        rw [htoken] at h
        cases h
        exact malformed_of_tokenDetails htoken
      | ok token =>
        rw [htoken] at h
        exact malformed_of_transferRecord h

theorem malformed_of_recordOfTransaction {event : Event} {e : Failure}
    (h : recordOfTransaction network now inquiry event = .error e) :
    ∃ reason, e = .malformed reason := by
  unfold recordOfTransaction at h
  cases hdecode : Transaction.decode event.payload with
  | error fault =>
    simp only [hdecode] at h
    cases h
    exact ⟨_, rfl⟩
  | ok tx =>
    simp only [hdecode] at h
    cases hbare : bareRecord inquiry network tx.hash tx.hash tx.timeStamp now with
    | error e' =>
      rw [hbare] at h
      cases h
      exact malformed_of_bareRecord hbare
    | ok bare =>
      rw [hbare] at h
      cases h

/-- An event that cannot become a record is malformed, and there is no other failure. No premise on
the item is needed: it may be any JSON, found anywhere. -/
theorem malformed_of_recordOf {event : Event} {e : Failure}
    (h : (recordOf network cache ticks now inquiry event).1 = .error e) :
    ∃ reason, e = .malformed reason := by
  unfold recordOf at h
  split at h
  · exact malformed_of_recordOfTransfer h
  · split at h
    · exact malformed_of_recordOfTransaction h
    · cases h
      exact ⟨_, rfl⟩

/-- Whether an item becomes a record, and under which identifier, depends on the item alone. -/
theorem exists_recordOf_of_recordOf {endpoint : String} {cache' : TokenCache} {ticks' : Nat}
    {now' : Time.Instant} {inquiry' : Inquiry}
    (h : (recordOf network cache ticks now inquiry ⟨endpoint, payload⟩).1 = .ok r) :
    ∃ r', (recordOf network cache' ticks' now' inquiry' ⟨endpoint, payload⟩).1 = .ok r' ∧
      r'.identifier = r.identifier := by
  obtain rfl | rfl := endpoint_of_recordOf h
  · obtain ⟨transfer, logIndex, hdecode, haccepted, hidentifier⟩ := accepted_of_recordOf h
    obtain ⟨r', hr'⟩ := @exists_recordOf_of_accepted network cache' ticks' now' inquiry' _ _ _
      hdecode haccepted
    obtain ⟨transfer', logIndex', hdecode', haccepted', hidentifier'⟩ := accepted_of_recordOf hr'
    obtain rfl := Except.ok.inj (hdecode.symm.trans hdecode')
    obtain rfl := Option.some.inj (haccepted.1.symm.trans haccepted'.1)
    exact ⟨r', hr', hidentifier'.trans hidentifier.symm⟩
  · obtain ⟨tx, hdecode, hdated, hidentifier⟩ := isDated_of_recordOf h
    obtain ⟨r', hr'⟩ := @exists_recordOf_of_isDated network cache' ticks' now' inquiry' _ _
      hdecode hdated
    obtain ⟨tx', hdecode', -, hidentifier'⟩ := isDated_of_recordOf hr'
    obtain rfl := Except.ok.inj (hdecode.symm.trans hdecode')
    exact ⟨r', hr', hidentifier'.trans hidentifier.symm⟩

end ChainCrawl.Explorer
