import ChainCrawl.Proofs.Explorer.Item
import ChainCrawl.Proofs.Explorer.Token
import ChainCrawl.Proofs.Network
import ChainCrawl.Proofs.Text.Scan

namespace ChainCrawl

theorem ActivityRecord.identifierOf_inj {m n : Network} {proof proof' : String} :
    identifierOf m proof = identifierOf n proof' ↔ m = n ∧ proof = proof' := by
  unfold identifierOf
  rw [Text.append_separator_inj rfl m.colon_notMem_name n.colon_notMem_name,
    Network.name_injective.eq_iff]

namespace Explorer

/-- The events are the same one on its chain, whoever asked for it. -/
structure Reading.SameEvent (x y : Reading) : Prop where
  network : x.network = y.network
  endpoint : x.event.endpoint = y.event.endpoint
  hash : eventField? x.event "hash" = eventField? y.event "hash"
  /-- A transaction is told by its hash alone. -/
  logIndex : x.event.endpoint = tokenEndpoint →
    eventField? x.event "logIndex" = eventField? y.event "logIndex"

/-- The hash that the event gives has no hyphen in it. -/
def Reading.HasPlainHash (x : Reading) : Prop :=
  ∀ hash, eventField? x.event "hash" = some (.str hash) → '-' ∉ hash.toList

variable {x y : Reading} {cache cache' : TokenCache} {r s : ActivityRecord}

/-- A record has the identifier that the texts of its event make. -/
inductive Reading.Identified (x : Reading) : String → Prop where
  | transfer (hash logIndex : String) (hendpoint : x.event.endpoint = tokenEndpoint)
      (hhash : eventField? x.event "hash" = some (.str hash))
      (hlogIndex : eventField? x.event "logIndex" = some (.str logIndex)) :
      x.Identified (ActivityRecord.identifierOf x.network (hash ++ "-" ++ logIndex))
  | transaction (hash : String) (hendpoint : x.event.endpoint = transactionEndpoint)
      (hhash : eventField? x.event "hash" = some (.str hash)) :
      x.Identified (ActivityRecord.identifierOf x.network hash)

theorem identified_of_outcome (h : (x.outcome cache).1 = .ok r) : x.Identified r.identifier := by
  obtain ⟨network, ticks, now, inquiry, ⟨endpoint, payload⟩⟩ := x
  obtain rfl | rfl := endpoint_of_recordOf h
  · obtain ⟨transfer, logIndex, hdecode, haccepted, hidentifier⟩ := accepted_of_recordOf h
    have hholds := Transfer.holds_of_decode hdecode
    rw [hidentifier]
    refine .transfer transfer.hash logIndex rfl ?_ ?_
    · rw [eventField?_of_transfer rfl]
      exact hholds.hash
    · rw [eventField?_of_transfer rfl]
      exact (hholds.logIndex logIndex).1 haccepted.1
  · obtain ⟨tx, hdecode, -, hidentifier⟩ := isDated_of_recordOf h
    rw [hidentifier]
    refine .transaction tx.hash rfl ?_
    rw [eventField?_of_transaction rfl]
    exact (Transaction.holds_of_decode hdecode).hash

theorem hyphen_mem (hash logIndex : String) : '-' ∈ (hash ++ "-" ++ logIndex).toList := by
  simp

/-- A transfer and a transaction are no event in common, whatever they give. -/
theorem identifier_ne_of_transfer_of_transaction {m n : Network} {hash hash' logIndex : String}
    (hplain : '-' ∉ hash'.toList) :
    ActivityRecord.identifierOf m (hash ++ "-" ++ logIndex) ≠
      ActivityRecord.identifierOf n hash' := by
  intro heq
  obtain ⟨-, hproof⟩ := ActivityRecord.identifierOf_inj.1 heq
  rw [← hproof] at hplain
  exact hplain (hyphen_mem hash logIndex)

theorem sameEvent_iff_of_transfers {hash hash' logIndex logIndex' : String}
    (hx : x.event.endpoint = tokenEndpoint) (hy : y.event.endpoint = tokenEndpoint)
    (hxhash : eventField? x.event "hash" = some (.str hash))
    (hyhash : eventField? y.event "hash" = some (.str hash'))
    (hxplace : eventField? x.event "logIndex" = some (.str logIndex))
    (hyplace : eventField? y.event "logIndex" = some (.str logIndex')) :
    x.SameEvent y ↔ x.network = y.network ∧ hash = hash' ∧ logIndex = logIndex' := by
  constructor
  · rintro ⟨hnetwork, -, hhash, hplace⟩
    have hplace := hplace hx
    rw [hxhash, hyhash, Option.some.injEq, Json.str.injEq] at hhash
    rw [hxplace, hyplace, Option.some.injEq, Json.str.injEq] at hplace
    exact ⟨hnetwork, hhash, hplace⟩
  · rintro ⟨hnetwork, rfl, rfl⟩
    exact ⟨hnetwork, hx.trans hy.symm, hxhash.trans hyhash.symm,
      fun _ => hxplace.trans hyplace.symm⟩

theorem sameEvent_iff_of_transactions {hash hash' : String}
    (hx : x.event.endpoint = transactionEndpoint) (hy : y.event.endpoint = transactionEndpoint)
    (hxhash : eventField? x.event "hash" = some (.str hash))
    (hyhash : eventField? y.event "hash" = some (.str hash')) :
    x.SameEvent y ↔ x.network = y.network ∧ hash = hash' := by
  constructor
  · rintro ⟨hnetwork, -, hhash, -⟩
    rw [hxhash, hyhash, Option.some.injEq, Json.str.injEq] at hhash
    exact ⟨hnetwork, hhash⟩
  · rintro ⟨hnetwork, rfl⟩
    refine ⟨hnetwork, hx.trans hy.symm, hxhash.trans hyhash.symm, fun htoken => ?_⟩
    exact absurd (hx.symm.trans htoken) (by decide)

/-- Events share an identifier exactly if they are of one network and one endpoint, with one hash,
and, where they are transfers, with one place in the log. No premise on the places in the log is
needed: they may hold any characters, hyphens too. -/
theorem identifier_eq_iff (hx : (x.outcome cache).1 = .ok r) (hy : (y.outcome cache').1 = .ok s)
    (hxhash : x.HasPlainHash) (hyhash : y.HasPlainHash) :
    r.identifier = s.identifier ↔ x.SameEvent y := by
  have hxid := identified_of_outcome hx
  have hyid := identified_of_outcome hy
  have hne : tokenEndpoint ≠ transactionEndpoint := by decide
  generalize r.identifier = a at hxid ⊢
  generalize s.identifier = b at hyid ⊢
  cases hxid with
  | transfer hash logIndex hendpoint hhash hplace =>
    cases hyid with
    | transfer hash' logIndex' hendpoint' hhash' hplace' =>
      rw [ActivityRecord.identifierOf_inj,
        Text.append_separator_inj rfl (hxhash hash hhash) (hyhash hash' hhash'),
        sameEvent_iff_of_transfers hendpoint hendpoint' hhash hhash' hplace hplace']
    | transaction hash' hendpoint' hhash' =>
      apply iff_of_false (identifier_ne_of_transfer_of_transaction (hyhash hash' hhash'))
      intro hsame
      exact hne (hendpoint.symm.trans (hsame.endpoint.trans hendpoint'))
  | transaction hash hendpoint hhash =>
    cases hyid with
    | transfer hash' logIndex' hendpoint' hhash' hplace' =>
      apply iff_of_false (identifier_ne_of_transfer_of_transaction (hxhash hash hhash)).symm
      intro hsame
      exact hne (hendpoint'.symm.trans (hsame.endpoint.symm.trans hendpoint))
    | transaction hash' hendpoint' hhash' =>
      rw [ActivityRecord.identifierOf_inj,
        sameEvent_iff_of_transactions hendpoint hendpoint' hhash hhash']

/-- A transfer that leaves its token's details out is the same event whether they are known or not;
the transaction that it was made in, and a transfer of the same hash on another network, are not. -/
theorem identifier_eq_iff_sample :
    ∃ (x y z : Reading) (known : TokenCache) (r r' s t : ActivityRecord),
      x = .sample .ethereum "0xToken" [] ∧
      y = { x with event := ⟨transactionEndpoint, x.event.payload⟩ } ∧
      z = .sample .polygon "0xToken" [] ∧
      known = knownAfter 600 [.sample .ethereum "0xToken"
        [("tokenSymbol", .str "USDC"), ("tokenDecimal", .str "6")]] ∧
      (x.outcome (.empty 600)).1 = .ok r ∧ (x.outcome known).1 = .ok r' ∧
      (y.outcome known).1 = .ok s ∧ (z.outcome known).1 = .ok t ∧
      x.HasPlainHash ∧ y.HasPlainHash ∧ z.HasPlainHash ∧
      (r.identifier = r'.identifier ↔ x.SameEvent x) ∧
      (r.identifier = s.identifier ↔ x.SameEvent y) ∧
      (r.identifier = t.identifier ↔ x.SameEvent z) := by
  have hplain : ∀ x : Reading, eventField? x.event "hash" = some (.str "0xabc") →
      x.HasPlainHash := by
    intro x hx hash hhash
    rw [hx, Option.some.injEq, Json.str.injEq] at hhash
    subst hhash
    decide
  generalize hknown : knownAfter 600 _ = known
  obtain ⟨x, hx⟩ : ∃ x, x = Reading.sample .ethereum "0xToken" [] := ⟨_, rfl⟩
  obtain ⟨y, hy⟩ : ∃ y : Reading, y = { x with event := ⟨transactionEndpoint, x.event.payload⟩ } :=
    ⟨_, rfl⟩
  obtain ⟨z, hz⟩ : ∃ z, z = Reading.sample .polygon "0xToken" [] := ⟨_, rfl⟩
  have hxplain : x.HasPlainHash := hplain x (by rw [hx]; rfl)
  have hyplain : y.HasPlainHash := hplain y (by rw [hy, hx]; rfl)
  have hzplain : z.HasPlainHash := hplain z (by rw [hz]; rfl)
  obtain ⟨r, hr⟩ : ∃ r, (x.outcome (.empty 600)).1 = .ok r := ⟨_, by rw [hx]; rfl⟩
  obtain ⟨r', hr'⟩ : ∃ r, (x.outcome known).1 = .ok r := ⟨_, by rw [hx, ← hknown]; rfl⟩
  obtain ⟨s, hs⟩ : ∃ r, (y.outcome known).1 = .ok r := ⟨_, by rw [hy, hx, ← hknown]; rfl⟩
  obtain ⟨t, ht⟩ : ∃ r, (z.outcome known).1 = .ok r := ⟨_, by rw [hz, ← hknown]; rfl⟩
  exact ⟨x, y, z, known, r, r', s, t, hx, hy, hz, rfl, hr, hr', hs, ht, hxplain, hyplain, hzplain,
    identifier_eq_iff hr hr' hxplain hxplain, identifier_eq_iff hr hs hxplain hyplain,
    identifier_eq_iff hr ht hxplain hzplain⟩

end Explorer

end ChainCrawl
