import ChainCrawl.Proofs.Explorer.Account

namespace ChainCrawl.Explorer

/-- These are the newest of all the items, as many as are wanted, with the newest of them first.
Which items of one block are taken is left open. -/
def Newest (wanted : Nat) (all : List AccountItem) (payloads : List Json) : Prop :=
  ∃ ordered : List AccountItem, ordered.Perm all ∧
    ordered.Pairwise SortOrder.descending.Agrees ∧
    payloads = (ordered.take wanted).map (·.payload)

/-- The items of an address under an action. -/
def accountItems (items : List AccountItem) (action address : String) : List AccountItem :=
  items.filter fun item => item.action = action && item.address = address

/-- The items that an inquiry wants of each list. -/
def wantedItems (inquiry : Inquiry) : Nat :=
  (inquiry.limit.getD usualLimit).toNat

variable {client : Client} {explorer : String → Option HttpResponse} {items : List AccountItem}
  {action address : String} {inquiry : Inquiry}

theorem Listing.pageSize_newest {limit : UInt32} (hleast : 1 ≤ limit.toNat)
    (hgreatest : limit.toNat ≤ reachableItems) : (newest limit).pageSize = limit.toNat := by
  change max 1 (min limit.toNat reachableItems) = limit.toNat
  omega

theorem itemsOf_newest {limit : UInt32} (hblocks : ∀ item ∈ items, 0 ≤ item.block) :
    itemsOf items action address (.newest limit) =
      (accountItems items action address).filter (·.block ≤ 99999999) := by
  unfold itemsOf accountItems
  rw [List.filter_filter]
  apply List.filter_congr
  intro item hitem
  have hblock := hblocks item hitem
  simp only [Listing.newest, hblock, decide_true, Bool.and_true]
  exact Bool.and_comm _ _

/-- The first page of the newest items is all that is read. -/
theorem value_itemList_newest {limit : UInt32} (hleast : 1 ≤ limit.toNat)
    (hgreatest : limit.toNat ≤ reachableItems)
    (hlists : Lists client explorer items action address (.newest limit)) :
    ∃ payloads, (client.itemList action address (.newest limit)).run.value explorer =
        .ok payloads ∧
      Newest limit.toNat (itemsOf items action address (.newest limit)) payloads := by
  obtain ⟨listed, hperm, hsorted, hpages⟩ := hlists
  have hsize := Listing.pageSize_newest hleast hgreatest
  obtain ⟨url, response, htarget, hanswer, hshows⟩ :=
    hpages 0 (Listing.one_le_pageLimit _) (by simp)
  have hpage := Client.value_itemPage htarget hanswer hshows
  refine ⟨_, value_readPages_of_not_whole (by simp [Listing.newest]) hpage, listed, hperm, hsorted,
    ?_⟩
  rw [Listing.pageAfter, hsize, Nat.zero_mul, List.drop_zero, List.map_take]

theorem listingFor_of_no_window (hwindow : inquiry.window = none) :
    listingFor inquiry = .newest (inquiry.limit.getD usualLimit) := by
  rw [listingFor, hwindow]

/-- These are the newest items of the inquiry's identity under an action, as many as the inquiry
wants, from the blocks up to the last one that is looked at; and they are the newest of all, if none
lies beyond that block. -/
def NewestSeen (items : List AccountItem) (action : String) (inquiry : Inquiry)
    (payloads : List Json) : Prop :=
  let all := accountItems items action inquiry.identity
  Newest (wantedItems inquiry) (all.filter (·.block ≤ 99999999)) payloads ∧
    ((∀ item ∈ all, item.block ≤ 99999999) → Newest (wantedItems inquiry) all payloads)

theorem wantedItems_bounds (hlimit : ∀ limit, inquiry.limit = some limit →
    1 ≤ limit.toNat ∧ limit.toNat ≤ reachableItems) :
    1 ≤ wantedItems inquiry ∧ wantedItems inquiry ≤ reachableItems := by
  unfold wantedItems
  cases hset : inquiry.limit with
  | none => decide
  | some limit => exact hlimit limit hset

/-- Either list of an inquiry without a window is read with its first page. -/
theorem value_itemList_of_no_window (hwindow : inquiry.window = none)
    (hlimit : ∀ limit, inquiry.limit = some limit →
      1 ≤ limit.toNat ∧ limit.toNat ≤ reachableItems)
    (hblocks : ∀ item ∈ items, 0 ≤ item.block)
    (hlists : Lists client explorer items action inquiry.identity (listingFor inquiry)) :
    ∃ payloads, (client.itemList action inquiry.identity (listingFor inquiry)).run.value explorer =
      .ok payloads ∧ NewestSeen items action inquiry payloads := by
  rw [listingFor_of_no_window hwindow] at hlists ⊢
  obtain ⟨hleast, hgreatest⟩ := wantedItems_bounds hlimit
  obtain ⟨payloads, hvalue, hnewest⟩ := value_itemList_newest hleast hgreatest hlists
  rw [itemsOf_newest hblocks] at hnewest
  refine ⟨payloads, hvalue, hnewest, fun hwithin => ?_⟩
  rwa [List.filter_eq_self.2 fun item hitem => decide_eq_true (hwithin item hitem)] at hnewest

/-- What is fetched for an inquiry without a window are the newest transfers of its identity and
then its newest transactions, as many of each as it wants, from the blocks up to block 99,999,999;
so they are the newest of all blocks if none of them lies beyond. -/
theorem newest_items_fetched (hwindow : inquiry.window = none) (hsince : inquiry.since = none)
    (hlimit : ∀ limit, inquiry.limit = some limit →
      1 ≤ limit.toNat ∧ limit.toNat ≤ reachableItems)
    (hblocks : ∀ item ∈ items, 0 ≤ item.block)
    (hserves : Serves client explorer items inquiry) :
    ∃ transfers transactions : List Json,
      (fetch client inquiry).value explorer =
        .ok (transfers.map (Event.mk tokenEndpoint) ++
          transactions.map (Event.mk transactionEndpoint)) ∧
      NewestSeen items tokenEndpoint inquiry transfers ∧
      NewestSeen items transactionEndpoint inquiry transactions := by
  obtain ⟨transfers, htransfers, htransfersSeen⟩ :=
    value_itemList_of_no_window hwindow hlimit hblocks hserves.1
  obtain ⟨transactions, htransactions, htransactionsSeen⟩ :=
    value_itemList_of_no_window hwindow hlimit hblocks hserves.2
  exact ⟨transfers, transactions, value_fetch_of_ok hsince htransfers htransactions,
    htransfersSeen, htransactionsSeen⟩

theorem Newest.eq_nil {wanted : Nat} {payloads : List Json} (h : Newest wanted [] payloads) :
    payloads = [] := by
  obtain ⟨ordered, hperm, -, rfl⟩ := h
  rw [List.perm_nil.1 hperm, List.take_nil]
  rfl

def newestInquiry : Inquiry :=
  ⟨"0xab", .ethereum, none, none, none, none⟩

def newestUrl (action : String) : String :=
  "http://a.b/?module=account&action=" ++ action ++
    "&address=0xab&startblock=0&endblock=99999999&page=1&offset=100&sort=desc&apikey=key"

/-- An explorer that shows one body at an address, and elsewhere that there is nothing. -/
def explorerAt (shown body : String) (url : String) : Option HttpResponse :=
  some ⟨200, if url = shown then body else sampleEmptyBody⟩

theorem target_newest {action : String} (haction : action ∈ [tokenEndpoint, transactionEndpoint]) :
    Client.sample.target (Client.pageParams action "0xab" (.newest usualLimit) 1) =
      .ok (newestUrl action) := by
  have htarget : ∀ action ∈ [tokenEndpoint, transactionEndpoint], (Client.sample.target
      (Client.pageParams action "0xab" (.newest usualLimit) 1)).toOption =
        some (newestUrl action) := by
    decide +kernel
  exact ok_of_toOption (htarget action haction)

/-- Where there is nothing to list, one answer that says so is enough. -/
theorem lists_of_nothing {q : Listing} {url : String}
    (hnothing : itemsOf items action address q = [])
    (htarget : client.target (Client.pageParams action address q 1) = .ok url)
    (hanswer : explorer url = some ⟨200, sampleEmptyBody⟩) :
    Lists client explorer items action address q := by
  have hperm : List.Perm [] (itemsOf items action address q) := by rw [hnothing]
  refine lists_of_lt hperm .nil q.one_le_pageSize htarget hanswer ⟨by simp, by simp, _,
    read?_sampleEmptyBody, .none (.arr []) rfl⟩

def newestExplorer : String → Option HttpResponse :=
  explorerAt (newestUrl transactionEndpoint) sampleBody

theorem serves_newest : Serves .sample newestExplorer [.sample] newestInquiry := by
  have hother : newestUrl tokenEndpoint ≠ newestUrl transactionEndpoint := by decide
  constructor
  · refine lists_of_nothing rfl (target_newest (by decide)) ?_
    rw [newestExplorer, explorerAt, if_neg hother]
  · have hperm : List.Perm [.sample] (itemsOf [.sample] transactionEndpoint "0xab"
        (.newest usualLimit)) :=
      .refl _
    apply lists_of_lt hperm (List.pairwise_singleton _ _) (by decide) (target_newest (by decide))
      rfl
    refine ⟨by decide, by decide, _, ?_, .listed "OK"⟩
    rw [if_pos rfl]
    exact read?_sampleBody

/-- The sample transaction is fetched as the newest one. -/
theorem newest_items_fetched_sample :
    newestInquiry.window = none ∧ newestInquiry.since = none ∧
    (∀ limit, newestInquiry.limit = some limit →
      1 ≤ limit.toNat ∧ limit.toNat ≤ reachableItems) ∧
    (∀ item ∈ [AccountItem.sample], 0 ≤ item.block) ∧
    Serves .sample newestExplorer [.sample] newestInquiry ∧
    ∃ transfers transactions : List Json,
      (fetch .sample newestInquiry).value newestExplorer =
        .ok (transfers.map (Event.mk tokenEndpoint) ++
          transactions.map (Event.mk transactionEndpoint)) ∧
      NewestSeen [.sample] tokenEndpoint newestInquiry transfers ∧
      NewestSeen [.sample] transactionEndpoint newestInquiry transactions := by
  have hlimit : ∀ limit, newestInquiry.limit = some limit →
      1 ≤ limit.toNat ∧ limit.toNat ≤ reachableItems := by
    intro limit hset
    cases hset
  have hblocks : ∀ item ∈ [AccountItem.sample], 0 ≤ item.block := by
    intro item hitem
    obtain rfl := List.mem_singleton.1 hitem
    decide
  exact ⟨rfl, rfl, hlimit, hblocks, serves_newest,
    newest_items_fetched rfl rfl hlimit hblocks serves_newest⟩

/-- A transaction in the block after the last one that is looked at. -/
def AccountItem.late : AccountItem where
  action := transactionEndpoint
  address := "0xab"
  block := 100000000
  payload := .obj [("blockNumber", .str "100000000"), ("from", .str "0x1"), ("hash", .str "0x7"),
    ("timeStamp", .str "60"), ("to", .str "0xab"), ("value", .str "5")]

def lateBody : String :=
  "\x7b\"status\":\"1\",\"message\":\"OK\",\"result\":[\x7b\"hash\":\"0x7\",\"from\":\"0x1\"," ++
    "\"to\":\"0xab\",\"value\":\"5\",\"blockNumber\":\"100000000\",\"timeStamp\":\"60\"\x7d]\x7d"

def lateUrl : String :=
  "http://a.b/?module=account&action=txlist&address=0xab&startblock=100000000" ++
    "&endblock=100000000&page=1&offset=1000&sort=asc&apikey=key"

def lateExplorer : String → Option HttpResponse :=
  explorerAt lateUrl lateBody

theorem read?_lateBody : Json.read? lateBody =
    some (.obj [("message", .str "OK"), ("result", .arr [AccountItem.late.payload]),
      ("status", .str "1")]) := by
  cbv

theorem target_late : Client.sample.target (Client.pageParams transactionEndpoint "0xab"
    (.ofBlocks 100000000 100000000) 1) = .ok lateUrl :=
  ok_of_toOption (by decide +kernel)

/-- The late transaction is listed where its block is asked for. -/
theorem lists_late : Lists .sample lateExplorer [.late] transactionEndpoint "0xab"
    (.ofBlocks 100000000 100000000) := by
  have hsize := Listing.pageSize_ofBlocks 100000000 100000000
  have hperm : List.Perm [.late] (itemsOf [.late] transactionEndpoint "0xab"
      (.ofBlocks 100000000 100000000)) :=
    .refl _
  apply lists_of_lt hperm (List.pairwise_singleton _ _) (by rw [hsize]; decide) target_late rfl
  refine ⟨by decide, by decide, _, ?_, .listed "OK"⟩
  rw [if_pos rfl]
  exact read?_lateBody

/-- An explorer lists a transaction where its block is asked for, and it is the newest one there is;
but the inquiry after the newest ones has nothing. -/
theorem newest_item_not_seen :
    Lists .sample lateExplorer [.late] transactionEndpoint "0xab"
      (.ofBlocks 100000000 100000000) ∧
    Serves .sample lateExplorer [.late] newestInquiry ∧
    Newest (wantedItems newestInquiry) (accountItems [.late] transactionEndpoint "0xab")
      [AccountItem.late.payload] ∧
    (fetch .sample newestInquiry).value lateExplorer = .ok [] := by
  have hserves : Serves .sample lateExplorer [.late] newestInquiry :=
    ⟨lists_of_nothing rfl (target_newest (by decide)) rfl,
      lists_of_nothing rfl (target_newest (by decide)) rfl⟩
  refine ⟨lists_late, hserves, ⟨[.late], .refl _, List.pairwise_singleton _ _, rfl⟩, ?_⟩
  have hblocks : ∀ item ∈ [AccountItem.late], 0 ≤ item.block := by
    intro item hitem
    obtain rfl := List.mem_singleton.1 hitem
    decide
  obtain ⟨transfers, htransfers, hnoTransfers, -⟩ :=
    value_itemList_of_no_window rfl (by simp [newestInquiry]) hblocks hserves.1
  obtain ⟨transactions, htransactions, hnoTransactions, -⟩ :=
    value_itemList_of_no_window rfl (by simp [newestInquiry]) hblocks hserves.2
  obtain rfl : transfers = [] := hnoTransfers.eq_nil
  obtain rfl : transactions = [] := hnoTransactions.eq_nil
  exact value_fetch_of_ok rfl htransfers htransactions

end ChainCrawl.Explorer
