import ChainCrawl.Proofs.Explorer.Item
import ChainCrawl.Proofs.Explorer.Token
import ChainCrawl.Proofs.Text.Integer

namespace ChainCrawl.Explorer

open Text (AllDigits decimal)

/-- The event states this number of decimals for its token, in digits. -/
def Reading.StatesDecimals (x : Reading) (n : Nat) : Prop :=
  ∃ stated, eventField? x.event "tokenDecimal" = some (.str stated) ∧ AllDigits stated.toList ∧
    decimal stated.toList = n

variable {x : Reading} {cache : TokenCache} {transfer : Transfer} {logIndex : String} {n : Nat}

/-- A number of decimals is read as long as it fits into a machine word. -/
theorem statedDecimals_of_statesDecimals (hendpoint : x.event.endpoint = tokenEndpoint)
    (hstates : x.StatesDecimals n) (hpos : 0 < n)
    (hdecode : Transfer.decode x.event.payload = .ok transfer) :
    statedDecimals transfer = if (n : Int) ≤ Word.maxUInt32 then some n else none := by
  obtain ⟨stated, hgiven, hdigits, rfl⟩ := hstates
  rw [eventField?_of_transfer hendpoint] at hgiven
  have hstated : transfer.tokenDecimal = some stated :=
    ((Transfer.holds_of_decode hdecode).tokenDecimal stated).2 hgiven
  have hne : stated.toList ≠ [] := by
    intro hnil
    rw [hnil] at hpos
    exact absurd hpos (by decide)
  rw [statedDecimals, hstated, Option.bind_some, Text.uint32?_of_digits hne hdigits]

/-- An event whose transfer states impossible decimals tells nothing of tokens and is refused. -/
theorem outcome_of_impossible (hendpoint : x.event.endpoint = tokenEndpoint)
    (himpossible : ∀ transfer, Transfer.decode x.event.payload = .ok transfer →
      statedDecimals transfer = some n ∧ mostDecimals < n) (cache : TokenCache) :
    (x.outcome cache).2 = cache ∧ ∃ reason, (x.outcome cache).1 = .error (.malformed reason) := by
  have hkept : ∀ transfer, Transfer.decode x.event.payload = .ok transfer →
      (statedDecimals transfer).filter (mostDecimals < ·) = some n := by
    intro transfer hdecode
    obtain ⟨hstated, hmany⟩ := himpossible transfer hdecode
    rw [hstated]
    exact if_pos (decide_eq_true hmany)
  constructor
  · apply snd_outcome_of_transfer?_eq_none
    refine Option.eq_none_iff_forall_ne_some.2 fun transfer htransfer => ?_
    obtain ⟨-, hdecode, -, hnone⟩ := transfer?_eq_some_iff.1 htransfer
    cases (hkept transfer hdecode).symm.trans hnone
  · obtain ⟨network, ticks, now, inquiry, ⟨endpoint, payload⟩⟩ := x
    obtain rfl : endpoint = tokenEndpoint := hendpoint
    simp only [Reading.outcome]
    cases houtcome : (recordOf network cache ticks now inquiry ⟨tokenEndpoint, payload⟩).1 with
    | error e =>
      obtain ⟨reason, rfl⟩ := malformed_of_recordOf houtcome
      exact ⟨reason, rfl⟩
    | ok r =>
      obtain ⟨transfer, _, hdecode, ⟨-, hnone, -⟩, -⟩ := accepted_of_recordOf houtcome
      cases (hkept transfer hdecode).symm.trans hnone

/-- An event whose transfer states no decimals tells nothing of tokens, and its record has what is
known of the token. -/
theorem outcome_of_unstated (hendpoint : x.event.endpoint = tokenEndpoint)
    (hdecode : Transfer.decode x.event.payload = .ok transfer)
    (hlog : transfer.logIndex = some logIndex) (hunstated : statedDecimals transfer = none)
    (cache : TokenCache) :
    x.outcome cache = (transferRecord x.network x.inquiry x.event.endpoint x.now transfer logIndex
      (cache.get? x.ticks (Text.lowercase transfer.contractAddress)), cache) := by
  have htransfer : x.transfer? = some transfer :=
    transfer?_eq_some_iff.2 ⟨hendpoint, hdecode, by rw [hlog]; rfl, by rw [hunstated]; rfl⟩
  have hdetails : statedDetails transfer = none := by
    unfold statedDetails
    rw [hunstated]
    cases transfer.tokenSymbol <;> rfl
  apply Prod.ext
  · rw [fst_outcome_of_transfer? htransfer hlog, hdetails, Option.none_or]
  · rw [snd_outcome_of_transfer? htransfer, hdetails]

/-- A transfer with more decimals than a token can have teaches nothing, and it is refused if their
number fits into a machine word; one with a greater number, which is otherwise sound, is recorded
with the decimals that are known of its token, if any are. No premise on the other fields of the
item is needed, nor on what is known of tokens. -/
theorem too_many_decimals (hendpoint : x.event.endpoint = tokenEndpoint)
    (hstates : x.StatesDecimals n) (hmany : 77 < n) (cache : TokenCache) :
    (x.outcome cache).2 = cache ∧
    ((n : Int) ≤ Word.maxUInt32 → ∃ reason, (x.outcome cache).1 = .error (.malformed reason)) ∧
    (Word.maxUInt32 < n → ∀ transfer logIndex, Transfer.decode x.event.payload = .ok transfer →
      transfer.logIndex = some logIndex →
      (x.outcome cache).1 = transferRecord x.network x.inquiry x.event.endpoint x.now transfer
        logIndex (cache.get? x.ticks (Text.lowercase transfer.contractAddress))) := by
  have hread : ∀ transfer, Transfer.decode x.event.payload = .ok transfer →
      statedDecimals transfer = if (n : Int) ≤ Word.maxUInt32 then some n else none :=
    fun transfer => statedDecimals_of_statesDecimals hendpoint hstates (by omega)
  by_cases hfits : (n : Int) ≤ Word.maxUInt32
  · have hrefused := outcome_of_impossible hendpoint
      (fun transfer hdecode => ⟨(hread transfer hdecode).trans (if_pos hfits), hmany⟩) cache
    exact ⟨hrefused.1, fun _ => hrefused.2, fun hgreat => absurd hfits (Int.not_le.2 hgreat)⟩
  · have hunstated : ∀ transfer, Transfer.decode x.event.payload = .ok transfer →
        statedDecimals transfer = none :=
      fun transfer hdecode => (hread transfer hdecode).trans (if_neg hfits)
    refine ⟨?_, fun hle => absurd hle hfits, fun _ transfer logIndex hdecode hlog => ?_⟩
    · cases htransfer : x.transfer? with
      | none => exact snd_outcome_of_transfer?_eq_none htransfer cache
      | some transfer =>
        obtain ⟨-, hdecode, hlog, -⟩ := transfer?_eq_some_iff.1 htransfer
        obtain ⟨logIndex, hlog⟩ := Option.isSome_iff_exists.1 hlog
        rw [outcome_of_unstated hendpoint hdecode hlog (hunstated transfer hdecode)]
    · rw [outcome_of_unstated hendpoint hdecode hlog (hunstated transfer hdecode)]

/-- The least number of decimals that no token can have, and the least one that no machine word
holds, after a transfer that states possible ones. -/
theorem too_many_decimals_sample :
    ∃ (x y : Reading) (known : TokenCache) (reason : String) (transfer : Transfer),
      x = .sample .ethereum "0xToken" [("tokenSymbol", .str "FAKE"), ("tokenDecimal", .str "78")] ∧
      y = .sample .ethereum "0xToken"
        [("tokenSymbol", .str "FAKE"), ("tokenDecimal", .str "4294967296")] ∧
      known = knownAfter 600 [.sample .ethereum "0xToken"
        [("tokenSymbol", .str "USDC"), ("tokenDecimal", .str "6")]] ∧
      x.event.endpoint = tokenEndpoint ∧ x.StatesDecimals 78 ∧ 77 < 78 ∧
      (x.outcome known).2 = known ∧ (x.outcome known).1 = .error (.malformed reason) ∧
      y.event.endpoint = tokenEndpoint ∧ y.StatesDecimals 4294967296 ∧ 77 < 4294967296 ∧
      Transfer.decode y.event.payload = .ok transfer ∧ transfer.logIndex = some "12" ∧
      (y.outcome known).1 = transferRecord .ethereum y.inquiry tokenEndpoint y.now transfer "12"
        (known.get? 5 (Text.lowercase transfer.contractAddress)) := by
  generalize hknown : knownAfter 600 _ = known
  have hx : (Reading.sample .ethereum "0xToken" [("tokenSymbol", .str "FAKE"),
      ("tokenDecimal", .str "78")]).StatesDecimals 78 :=
    ⟨"78", rfl, by decide, rfl⟩
  have hy : (Reading.sample .ethereum "0xToken" [("tokenSymbol", .str "FAKE"),
      ("tokenDecimal", .str "4294967296")]).StatesDecimals 4294967296 :=
    ⟨"4294967296", rfl, by decide, rfl⟩
  obtain ⟨hsame, hrefused, -⟩ := too_many_decimals rfl hx (by decide) known
  obtain ⟨reason, hreason⟩ := hrefused (by decide)
  have htaken := (too_many_decimals rfl hy (by decide) known).2.2 (by decide) _ "12" rfl rfl
  exact ⟨_, _, known, reason, _, rfl, rfl, rfl, rfl, hx, by decide, hsame, hreason, rfl, hy,
    by decide, rfl, rfl, htaken⟩

/-- A number of decimals that no machine word holds, after a transfer that states possible ones: the
transfer is recorded, and its amount has the decimals that were stated before. -/
theorem absurd_decimals_recorded :
    ∃ (x : Reading) (known : TokenCache) (r : ActivityRecord),
      x = .sample .ethereum "0xToken"
        [("tokenSymbol", .str "FAKE"), ("tokenDecimal", .str "4294967296")] ∧
      known = knownAfter 600 [.sample .ethereum "0xToken"
        [("tokenSymbol", .str "USDC"), ("tokenDecimal", .str "6")]] ∧
      x.event.endpoint = tokenEndpoint ∧ x.StatesDecimals 4294967296 ∧ 77 < 4294967296 ∧
      (x.outcome known).1 = .ok r ∧ r.metadata.get? "symbol" = some (.str "USDC") ∧
      r.metadata.get? "decimals" = some (.int 6) ∧ r.metadata.get? "amount" = some (.str "1.5") :=
  ⟨_, _, _, rfl, rfl, rfl, ⟨"4294967296", rfl, by decide, rfl⟩, by decide, rfl,
    rfl, rfl, rfl⟩

end ChainCrawl.Explorer
