import ChainCrawl.Proofs.Explorer.EventRecord
import ChainCrawl.Proofs.Json.Object
import ChainCrawl.Proofs.TimedCache
import Mathlib.Data.List.Induction

namespace ChainCrawl.Explorer

/-- An event that the adapter of a network is given to make a record of. -/
structure Reading where
  network : Network
  ticks : Nat
  now : Time.Instant
  inquiry : Inquiry
  event : Event

namespace Reading

/-- What becomes of the event, and what is known of tokens from then on. -/
def outcome (x : Reading) (cache : TokenCache) : Fallible ActivityRecord × TokenCache :=
  recordOf x.network cache x.ticks x.now x.inquiry x.event

/-- The transfer that the event tells of, unless it is refused before its token is looked at: it
must have a place in its transaction's log, and its decimals, if it states any, must be possible. -/
def transfer? (x : Reading) : Option Transfer :=
  if x.event.endpoint = tokenEndpoint then
    (Transfer.decode x.event.payload).toOption.filter fun transfer =>
      transfer.logIndex.isSome && ((statedDecimals transfer).filter (mostDecimals < ·)).isNone
  else none

/-- The complete details that the event states of the token of a contract. -/
def told? (x : Reading) (contract : String) : Option TokenDetails :=
  x.transfer?.bind fun transfer =>
    if Text.lowercase transfer.contractAddress = contract then statedDetails transfer else none

end Reading

/-- What is known of tokens after events, one after the other, to begin with nothing. -/
def knownAfter (lifetime : Nat) (readings : List Reading) : TokenCache :=
  readings.foldl (fun cache x => (x.outcome cache).2) (.empty lifetime)

/-- Of the events that count, these details of a contract's token were stated last. -/
def ToldLast (counts : Reading → Prop) (readings : List Reading) (contract : String)
    (details : TokenDetails) : Prop :=
  ∃ before y after, readings = before ++ y :: after ∧ counts y ∧ y.told? contract = some details ∧
    ∀ z ∈ after, counts z → z.told? contract = none

/-- A transfer states its token's details itself, or it leaves something out and they were stated
last before it by the events that count. -/
def TakesDetails (counts : Reading → Prop) (earlier : List Reading) (transfer : Transfer)
    (details : TokenDetails) : Prop :=
  statedDetails transfer = some details ∨ statedDetails transfer = none ∧
    ToldLast counts earlier (Text.lowercase transfer.contractAddress) details

variable {x : Reading} {cache : TokenCache} {transfer : Transfer} {r : ActivityRecord}
  {readings : List Reading} {lifetime : Nat}

theorem transfer?_eq_some_iff :
    x.transfer? = some transfer ↔ x.event.endpoint = tokenEndpoint ∧
      Transfer.decode x.event.payload = .ok transfer ∧ transfer.logIndex.isSome ∧
      (statedDecimals transfer).filter (mostDecimals < ·) = none := by
  unfold Reading.transfer?
  split
  · rename_i hendpoint
    cases hdecode : Transfer.decode x.event.payload with
    | error e => simp [Except.toOption]
    | ok decoded =>
      simp only [Except.toOption, Option.filter_eq_some_iff, Option.some.injEq, Bool.and_eq_true,
        Option.isNone_iff_eq_none, Except.ok.injEq, hendpoint, true_and]
  · rename_i hendpoint
    simp [hendpoint]

/-- A transfer that is not refused becomes a record with its own details or the known ones. -/
theorem fst_outcome_of_transfer? {logIndex : String} (h : x.transfer? = some transfer)
    (hlog : transfer.logIndex = some logIndex) (cache : TokenCache) :
    (x.outcome cache).1 =
      transferRecord x.network x.inquiry x.event.endpoint x.now transfer logIndex
        ((statedDetails transfer).or
          (cache.get? x.ticks (Text.lowercase transfer.contractAddress))) := by
  obtain ⟨hendpoint, hdecode, -, hpossible⟩ := transfer?_eq_some_iff.1 h
  simp only [Reading.outcome, recordOf, if_pos hendpoint, recordOfTransfer, hdecode, hlog,
    tokenDetails, hpossible]
  cases statedDetails transfer <;> rfl

/-- The details that a transfer states are known from then on. -/
theorem snd_outcome_of_transfer? (h : x.transfer? = some transfer) (cache : TokenCache) :
    (x.outcome cache).2 =
      match statedDetails transfer with
      | some details => cache.insert x.ticks (Text.lowercase transfer.contractAddress) details
      | none => cache := by
  obtain ⟨hendpoint, hdecode, hlog, hpossible⟩ := transfer?_eq_some_iff.1 h
  obtain ⟨logIndex, hlog⟩ := Option.isSome_iff_exists.1 hlog
  simp only [Reading.outcome, recordOf, if_pos hendpoint, recordOfTransfer, hdecode, hlog,
    tokenDetails, hpossible]
  cases statedDetails transfer <;> rfl

/-- An event that is refused before its token is looked at, or is no transfer, tells nothing of
tokens. -/
theorem snd_outcome_of_transfer?_eq_none (h : x.transfer? = none) (cache : TokenCache) :
    (x.outcome cache).2 = cache := by
  by_cases hendpoint : x.event.endpoint = tokenEndpoint
  · simp only [Reading.outcome, recordOf, if_pos hendpoint, recordOfTransfer]
    cases hdecode : Transfer.decode x.event.payload with
    | error e => rfl
    | ok decoded =>
      dsimp only
      cases hlog : decoded.logIndex with
      | none => rfl
      | some logIndex =>
        cases hpossible : (statedDecimals decoded).filter (mostDecimals < ·) with
        | none =>
          have hsome : x.transfer? = some decoded :=
            transfer?_eq_some_iff.2 ⟨hendpoint, hdecode, by rw [hlog]; rfl, hpossible⟩
          rw [h] at hsome
          cases hsome
        | some decimals => simp only [tokenDetails, hpossible]
  · simp only [Reading.outcome, recordOf, if_neg hendpoint]
    split <;> rfl

/-- An event changes what is known of the contract that it tells of, and of no other. -/
theorem kept?_outcome (x : Reading) (cache : TokenCache) (contract : String) :
    (x.outcome cache).2.kept? contract = (x.told? contract).or (cache.kept? contract) := by
  cases htransfer : x.transfer? with
  | none =>
    rw [snd_outcome_of_transfer?_eq_none htransfer, Reading.told?, htransfer]
    rfl
  | some transfer =>
    rw [snd_outcome_of_transfer? htransfer, Reading.told?, htransfer, Option.bind_some]
    by_cases hcontract : Text.lowercase transfer.contractAddress = contract
    · cases statedDetails transfer with
      | none => simp [hcontract]
      | some details => simp [hcontract, TimedCache.kept?_insert]
    · cases statedDetails transfer with
      | none => simp [hcontract]
      | some details => simp [hcontract, TimedCache.kept?_insert]

theorem lifetime_outcome (x : Reading) (cache : TokenCache) :
    (x.outcome cache).2.lifetime = cache.lifetime := by
  cases htransfer : x.transfer? with
  | none => rw [snd_outcome_of_transfer?_eq_none htransfer]
  | some transfer =>
    rw [snd_outcome_of_transfer? htransfer]
    cases statedDetails transfer <;> rfl

theorem knownAfter_concat (lifetime : Nat) (readings : List Reading) (x : Reading) :
    knownAfter lifetime (readings ++ [x]) = (x.outcome (knownAfter lifetime readings)).2 := by
  simp [knownAfter]

theorem lifetime_knownAfter (lifetime : Nat) (readings : List Reading) :
    (knownAfter lifetime readings).lifetime = lifetime := by
  induction readings using List.reverseRecOn with
  | nil => rfl
  | append_singleton rest last ih => rw [knownAfter_concat, lifetime_outcome, ih]

/-- What is kept of a contract is what was told last. -/
theorem toldLast_of_kept? {contract : String} {details : TokenDetails}
    (h : (knownAfter lifetime readings).kept? contract = some details) :
    ToldLast (fun _ => True) readings contract details := by
  induction readings using List.reverseRecOn with
  | nil => cases h
  | append_singleton rest last ih =>
    rw [knownAfter_concat, kept?_outcome] at h
    cases htold : last.told? contract with
    | some told =>
      rw [htold] at h
      obtain rfl : told = details := Option.some.inj h
      refine ⟨rest, last, [], rfl, trivial, htold, ?_⟩
      intro z hz
      cases hz
    | none =>
      rw [htold, Option.none_or] at h
      obtain ⟨before, y, after, rfl, -, hy, hafter⟩ := ih h
      refine ⟨before, y, after ++ [last], by simp, trivial, hy, ?_⟩
      intro z hz hcounts
      obtain hz | hz := List.mem_append.1 hz
      · exact hafter z hz hcounts
      · obtain rfl := List.mem_singleton.1 hz
        exact htold

/-- Where all events that tell of a contract count, those that tell of it last count as well. -/
theorem ToldLast.of_forall {counts : Reading → Prop} {contract : String} {details : TokenDetails}
    (h : ToldLast (fun _ => True) readings contract details)
    (hcounts : ∀ y ∈ readings, (y.told? contract).isSome → counts y) :
    ToldLast counts readings contract details := by
  obtain ⟨before, y, after, rfl, -, hy, hafter⟩ := h
  refine ⟨before, y, after, rfl, ?_, hy, fun z hz _ => hafter z hz trivial⟩
  apply hcounts y (List.mem_append_right _ List.mem_cons_self)
  rw [hy]
  rfl

/-- A record begins without metadata. -/
theorem get?_of_bareRecord {proof hash timeStamp : String} {network : Network}
    {inquiry : Inquiry} {now : Time.Instant}
    (h : bareRecord inquiry network proof hash timeStamp now = .ok r) (key : String) :
    r.metadata.get? key = none := by
  unfold bareRecord at h
  split at h
  · cases h
  · split at h
    · cases h
    · obtain rfl := Except.ok.inj h
      cases inquiry.platform <;> rfl

theorem get?_withToken (r : ActivityRecord) (value : String) (token : TokenDetails) :
    (withToken r value token).metadata.get? "symbol" = some (.str token.symbol) ∧
      (withToken r value token).metadata.get? "decimals" = some (.int token.decimals) := by
  unfold withToken
  cases inUnits? value token.decimals <;> cases token.name <;>
    simp [ActivityRecord.get?_setMetadata]

/-- The details of a token are in the record of a transfer if they were known. -/
theorem get?_of_transferRecord {network : Network} {inquiry : Inquiry} {endpoint : String}
    {now : Time.Instant} {logIndex : String} {token : Option TokenDetails}
    (h : transferRecord network inquiry endpoint now transfer logIndex token = .ok r) :
    r.metadata.get? "symbol" = token.map (.str ·.symbol) ∧
      r.metadata.get? "decimals" = token.map (.int ·.decimals) := by
  unfold transferRecord at h
  cases hbare : bareRecord inquiry network (transfer.hash ++ "-" ++ logIndex) transfer.hash
      transfer.timeStamp now with
  | error e =>
    rw [hbare] at h
    cases h
  | ok bare =>
    rw [hbare] at h
    have hempty := get?_of_bareRecord hbare
    obtain rfl := Except.ok.inj h
    cases token with
    | none => simp [ActivityRecord.get?_setMetadata, hempty]
    | some token => simpa using get?_withToken _ transfer.value token

/-- The record of a transaction names no token. -/
theorem get?_of_recordOfTransaction {network : Network} {now : Time.Instant} {inquiry : Inquiry}
    {event : Event} (h : recordOfTransaction network now inquiry event = .ok r) :
    r.metadata.get? "symbol" = none := by
  unfold recordOfTransaction at h
  cases hdecode : Transaction.decode event.payload with
  | error e =>
    rw [hdecode] at h
    cases h
  | ok tx =>
    simp only [hdecode] at h
    cases hbare : bareRecord inquiry network tx.hash tx.hash tx.timeStamp now with
    | error e =>
      rw [hbare] at h
      cases h
    | ok bare =>
      rw [hbare] at h
      have hempty := get?_of_bareRecord hbare
      obtain rfl := Except.ok.inj h
      cases inUnits? tx.value 18 <;> cases tx.functionName.filter (!·.isEmpty) <;>
        simp [ActivityRecord.get?_setMetadata, hempty]

/-- An event that is refused before its token is looked at, or is no transfer, becomes no record
with the details of a token. -/
theorem get?_of_transfer?_eq_none (h : x.transfer? = none) (hrecord : (x.outcome cache).1 = .ok r) :
    r.metadata.get? "symbol" = none := by
  obtain ⟨network, ticks, now, inquiry, ⟨endpoint, payload⟩⟩ := x
  obtain rfl | rfl := endpoint_of_recordOf hrecord
  · obtain ⟨transfer, logIndex, hdecode, ⟨hlog, hpossible, -⟩, -⟩ := accepted_of_recordOf hrecord
    rw [transfer?_eq_some_iff.2 ⟨rfl, hdecode, by rw [hlog]; rfl, hpossible⟩] at h
    cases h
  · rw [Reading.outcome, recordOf_transaction] at hrecord
    exact get?_of_recordOfTransaction hrecord

/-- A record with the details of a token is that of a transfer which states them or whose contract
they were known of. -/
theorem details_of_outcome (hrecord : (x.outcome cache).1 = .ok r) {symbol decimals : Json}
    (hsymbol : r.metadata.get? "symbol" = some symbol)
    (hdecimals : r.metadata.get? "decimals" = some decimals) :
    ∃ transfer details, Transfer.decode x.event.payload = .ok transfer ∧
      symbol = .str details.symbol ∧ decimals = .int details.decimals ∧
      (statedDetails transfer).or (cache.get? x.ticks (Text.lowercase transfer.contractAddress)) =
        some details := by
  cases htransfer : x.transfer? with
  | none =>
    rw [get?_of_transfer?_eq_none htransfer hrecord] at hsymbol
    cases hsymbol
  | some transfer =>
    obtain ⟨-, hdecode, hlog, -⟩ := transfer?_eq_some_iff.1 htransfer
    obtain ⟨logIndex, hlog⟩ := Option.isSome_iff_exists.1 hlog
    rw [fst_outcome_of_transfer? htransfer hlog] at hrecord
    obtain ⟨hsymbol', hdecimals'⟩ := get?_of_transferRecord hrecord
    rw [hsymbol] at hsymbol'
    rw [hdecimals] at hdecimals'
    obtain ⟨details, hdetails, rfl⟩ := Option.map_eq_some_iff.1 hsymbol'.symm
    rw [hdetails] at hdecimals'
    exact ⟨transfer, details, hdecode, rfl, Option.some.inj hdecimals', hdetails⟩

/-- The details of a token in a record are those that its own transfer states, and else those that
an earlier transfer of the same contract address stated last. That is one of the same network only
as long as no other network has a contract at that address: contracts are told apart by their
addresses alone. No premise on the events is needed: they may be of any networks, and any of them
may be refused. -/
theorem details_of_readings (hrecord : (x.outcome (knownAfter lifetime readings)).1 = .ok r)
    (hclock : x.ticks < lifetime) {symbol decimals : Json}
    (hsymbol : r.metadata.get? "symbol" = some symbol)
    (hdecimals : r.metadata.get? "decimals" = some decimals) :
    ∃ transfer details, Transfer.decode x.event.payload = .ok transfer ∧
      symbol = .str details.symbol ∧ decimals = .int details.decimals ∧
      TakesDetails (fun _ => True) readings transfer details ∧
      ((∀ y ∈ readings, (y.told? (Text.lowercase transfer.contractAddress)).isSome →
          y.network = x.network) →
        TakesDetails (·.network = x.network) readings transfer details) := by
  obtain ⟨transfer, details, hdecode, hsymbol', hdecimals', hdetails⟩ :=
    details_of_outcome hrecord hsymbol hdecimals
  refine ⟨transfer, details, hdecode, hsymbol', hdecimals', ?_⟩
  cases hstated : statedDetails transfer with
  | some stated =>
    rw [hstated, Option.some_or] at hdetails
    rw [hdetails] at hstated
    exact ⟨.inl hstated, fun _ => .inl hstated⟩
  | none =>
    have hfresh : x.ticks < (knownAfter lifetime readings).lifetime := by
      rwa [lifetime_knownAfter]
    rw [hstated, Option.none_or, TimedCache.get?_of_lt hfresh] at hdetails
    have htold := toldLast_of_kept? hdetails
    exact ⟨.inr ⟨hstated, htold⟩, fun hsame => .inr ⟨hstated, htold.of_forall hsame⟩⟩

/-- A transfer on a network, as an explorer lists it, with some fields about its token. -/
def Reading.sample (network : Network) (contract : String) (token : List (String × Json)) :
    Reading where
  network := network
  ticks := 5
  now := .epoch
  inquiry := Inquiry.of "0xab" network
  event := ⟨tokenEndpoint, .obj (Json.fieldsOfList ([("blockNumber", .str "120"),
    ("timeStamp", .str "1617000000"), ("hash", .str "0xabc"), ("logIndex", .str "12"),
    ("from", .str "0xcd"), ("to", .str "0xab"), ("value", .str "1500000"),
    ("contractAddress", .str contract)] ++ token))⟩

/-- A transfer that states its token's details, one with impossible decimals, and then one that
leaves the details out and writes the address of the contract in other letters. -/
theorem details_of_readings_sample :
    ∃ (stating refused bare : Reading) (r : ActivityRecord) (transfer : Transfer)
      (details : TokenDetails),
      stating = .sample .ethereum "0xToken"
        [("tokenSymbol", .str "USDC"), ("tokenDecimal", .str "6")] ∧
      refused = .sample .ethereum "0xToken"
        [("tokenSymbol", .str "FAKE"), ("tokenDecimal", .str "78")] ∧
      bare = .sample .ethereum "0xTOKEN" [("tokenSymbol", .str "")] ∧
      (bare.outcome (knownAfter 600 [stating, refused])).1 = .ok r ∧ bare.ticks < 600 ∧
      r.metadata.get? "symbol" = some (.str "USDC") ∧ r.metadata.get? "decimals" = some (.int 6) ∧
      (.str "USDC" : Json) = .str details.symbol ∧ (.int 6 : Json) = .int details.decimals ∧
      TakesDetails (·.network = .ethereum) [stating, refused] transfer details := by
  have hrecord : ∃ r, ((Reading.sample .ethereum "0xTOKEN" [("tokenSymbol", .str "")]).outcome
      (knownAfter 600 [.sample .ethereum "0xToken"
        [("tokenSymbol", .str "USDC"), ("tokenDecimal", .str "6")], .sample .ethereum "0xToken"
        [("tokenSymbol", .str "FAKE"), ("tokenDecimal", .str "78")]])).1 = .ok r ∧
      r.metadata.get? "symbol" = some (.str "USDC") ∧
      r.metadata.get? "decimals" = some (.int 6) := ⟨_, rfl, rfl, rfl⟩
  obtain ⟨r, hrecord, hsymbol, hdecimals⟩ := hrecord
  obtain ⟨transfer, details, -, hsymbol', hdecimals', -, hsame⟩ :=
    details_of_readings hrecord (by decide) hsymbol hdecimals
  refine ⟨_, _, _, r, transfer, details, rfl, rfl, rfl, hrecord, by decide, hsymbol, hdecimals,
    hsymbol', hdecimals', hsame ?_⟩
  intro y hy _
  simp only [List.mem_cons, List.not_mem_nil, or_false] at hy
  obtain rfl | rfl := hy <;> rfl

/-- A transfer on a second network that leaves its token's details out is recorded with those of
the contract at the same address on the first, though nothing was stated on its own network. -/
theorem details_of_another_network :
    ∃ (stating bare : Reading) (r : ActivityRecord),
      stating = .sample .ethereum "0xToken"
        [("tokenSymbol", .str "USDC"), ("tokenDecimal", .str "6")] ∧
      bare = .sample .polygon "0xToken" [("tokenSymbol", .str "")] ∧
      (bare.outcome (knownAfter 600 [stating])).1 = .ok r ∧
      r.metadata.get? "symbol" = some (.str "USDC") ∧ r.metadata.get? "decimals" = some (.int 6) ∧
      ∀ transfer details, Transfer.decode bare.event.payload = .ok transfer →
        ¬ TakesDetails (·.network = bare.network) [stating] transfer details := by
  refine ⟨_, _, _, rfl, rfl, rfl, rfl, rfl, ?_⟩
  rintro transfer details hdecode (hstated | ⟨-, before, y, after, heq, hnetwork, -⟩)
  · cases hdecode
    cases hstated
  · have hy : y ∈ [Reading.sample .ethereum "0xToken"
        [("tokenSymbol", .str "USDC"), ("tokenDecimal", .str "6")]] := by
      rw [heq]
      exact List.mem_append_right _ List.mem_cons_self
    obtain rfl := List.mem_singleton.1 hy
    cases hnetwork

end ChainCrawl.Explorer
