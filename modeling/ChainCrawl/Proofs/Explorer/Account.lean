import ChainCrawl.Explorer.Fetch
import ChainCrawl.Proofs.Explorer.Client
import ChainCrawl.Proofs.Explorer.Listing

namespace ChainCrawl.Explorer

/-- An item of an account: the action it is listed under, and the block it is in. -/
structure AccountItem where
  action : String
  address : String
  block : Int
  payload : Json

/-- The items that a listing of an address asks for, in no particular order. -/
def itemsOf (items : List AccountItem) (action address : String) (q : Listing) :
    List AccountItem :=
  items.filter fun item => item.action = action && item.address = address
    && q.firstBlock ≤ item.block && item.block ≤ q.lastBlock

/-- The first item may stand before the second in an order. -/
def SortOrder.Agrees (order : SortOrder) (a b : AccountItem) : Prop :=
  match order with
  | ascending => a.block ≤ b.block
  | descending => b.block ≤ a.block

/-- The explorer lists an action of an address: it puts the items in order once, and shows them page
by page. Pages that begin beyond the end of the list may be answered in any way. -/
def Lists (client : Client) (explorer : String → Option HttpResponse) (items : List AccountItem)
    (action address : String) (q : Listing) : Prop :=
  ∃ listed : List AccountItem, listed.Perm (itemsOf items action address q) ∧
    listed.Pairwise q.order.Agrees ∧
    ∀ earlier, earlier < q.pageLimit → earlier * q.pageSize ≤ listed.length →
      ∃ url response,
        client.target (Client.pageParams action address q (earlier + 1)) = .ok url ∧
        explorer url = some response ∧
        response.Shows (q.pageAfter (listed.map (·.payload)) earlier)

/-- The items that an inquiry asks for under an action. -/
def itemsFor (items : List AccountItem) (action : String) (inquiry : Inquiry) : List AccountItem :=
  itemsOf items action inquiry.identity (listingFor inquiry)

/-- The explorer lists both actions that are fetched for an inquiry. -/
def Serves (client : Client) (explorer : String → Option HttpResponse) (items : List AccountItem)
    (inquiry : Inquiry) : Prop :=
  Lists client explorer items tokenEndpoint inquiry.identity (listingFor inquiry) ∧
    Lists client explorer items transactionEndpoint inquiry.identity (listingFor inquiry)

/-- One of the lists that are fetched for an inquiry holds more items than pages can show. -/
def Overfull (items : List AccountItem) (inquiry : Inquiry) : Prop :=
  reachableItems ≤ (itemsFor items tokenEndpoint inquiry).length ∨
    reachableItems ≤ (itemsFor items transactionEndpoint inquiry).length

variable {client : Client} {explorer : String → Option HttpResponse} {items : List AccountItem}
  {action address : String} {q : Listing} {inquiry : Inquiry} {window : Window}

/-- A whole list has the items that were asked for, if they are fewer than can be reached. -/
theorem value_itemList (hlists : Lists client explorer items action address q)
    (hwhole : q.whole = true) :
    ∃ payloads : List Json, payloads.Perm ((itemsOf items action address q).map (·.payload)) ∧
      (client.itemList action address q).run.value explorer =
        if (itemsOf items action address q).length < q.pageLimit * q.pageSize then .ok payloads
        else .error (.overfull q.firstBlock q.lastBlock reachableItems) := by
  obtain ⟨listed, hperm, -, hpages⟩ := hlists
  refine ⟨listed.map (·.payload), hperm.map _, ?_⟩
  rw [← hperm.length_eq, ← List.length_map (·.payload)]
  apply value_readPages hwhole
  intro earlier hlimit hstart
  rw [List.length_map] at hstart
  obtain ⟨url, response, htarget, hanswer, hshows⟩ := hpages earlier hlimit hstart
  exact Client.value_itemPage htarget hanswer hshows

theorem listingFor_of_window (hwindow : inquiry.window = some window) :
    listingFor inquiry = .ofBlocks window.first window.last := by
  rw [listingFor, hwindow]

theorem mem_itemsFor_iff (hwindow : inquiry.window = some window) {item : AccountItem} :
    item ∈ itemsFor items action inquiry ↔ item ∈ items ∧ item.action = action ∧
      item.address = inquiry.identity ∧ window.Covers item.block := by
  simp [itemsFor, itemsOf, listingFor_of_window hwindow, Listing.ofBlocks, Window.Covers, and_assoc]

def overfullFailure (window : Window) : Failure :=
  .overfull (ExplorerFailure.overfull window.first window.last reachableItems).text

/-- The list of a window is read to its end, or the window is refused. -/
theorem value_itemList_of_window (hwindow : inquiry.window = some window)
    (hlists : Lists client explorer items action inquiry.identity (listingFor inquiry)) :
    ∃ payloads : List Json, payloads.Perm ((itemsFor items action inquiry).map (·.payload)) ∧
      (client.itemList action inquiry.identity (listingFor inquiry)).run.value explorer =
        if (itemsFor items action inquiry).length < reachableItems then .ok payloads
        else .error (.overfull window.first window.last reachableItems) := by
  have hq := listingFor_of_window hwindow
  have hfirst : (listingFor inquiry).firstBlock = window.first := by
    rw [hq]
    rfl
  have hlast : (listingFor inquiry).lastBlock = window.last := by
    rw [hq]
    rfl
  have hsize : (listingFor inquiry).pageSize = 1000 := by
    rw [hq]
    exact Listing.pageSize_ofBlocks _ _
  obtain ⟨payloads, hperm, hvalue⟩ := value_itemList hlists (by rw [hq]; rfl)
  refine ⟨payloads, hperm, ?_⟩
  rw [hvalue, Listing.pageLimit, hsize, hfirst, hlast]
  rfl

/-- Whatever is listed, what is fetched is made of what the two lists come to. -/
theorem value_fetch :
    (fetch client inquiry).value explorer =
      (((Proc.both (client.transfers inquiry.identity (listingFor inquiry)).run
        (client.transactions inquiry.identity (listingFor inquiry)).run).value explorer).mapError
          ExplorerFailure.toFailure).map fun listed =>
        (listed.1.map (Event.mk tokenEndpoint) ++
          listed.2.map (Event.mk transactionEndpoint)).filter fun event =>
            match inquiry.since with
            | some since => !happenedBefore event.payload since
            | none => true := by
  unfold fetch
  exact Proc.value_bind (S := web) explorer _ _

/-- Two lists that are read give the fetched events. -/
theorem value_fetch_of_ok {transfers transactions : List Json} (hsince : inquiry.since = none)
    (htransfers : (client.itemList tokenEndpoint inquiry.identity (listingFor inquiry)).run.value
      explorer = .ok transfers)
    (htransactions : (client.itemList transactionEndpoint inquiry.identity
      (listingFor inquiry)).run.value explorer = .ok transactions) :
    (fetch client inquiry).value explorer =
      .ok (transfers.map (Event.mk tokenEndpoint) ++
        transactions.map (Event.mk transactionEndpoint)) := by
  have hboth := Proc.value_both_ok htransfers htransactions
  refine (value_fetch.trans (congrArg _ (congrArg _ hboth))).trans ?_
  rw [hsince]
  exact congrArg _ (List.filter_eq_self.2 fun _ _ => rfl)

/-- What is fetched has an event for every item of the window, if both lists can be reached. -/
theorem value_fetch_of_not_overfull (hwindow : inquiry.window = some window)
    (hsince : inquiry.since = none) (hserves : Serves client explorer items inquiry)
    (hreachable : ¬ Overfull items inquiry) :
    ∃ events, (fetch client inquiry).value explorer = .ok events ∧
      ∀ action, action = tokenEndpoint ∨ action = transactionEndpoint →
        ∀ item ∈ itemsFor items action inquiry, Event.mk action item.payload ∈ events := by
  have htransfers := Nat.lt_of_not_ge fun hle => hreachable (.inl hle)
  have htransactions := Nat.lt_of_not_ge fun hle => hreachable (.inr hle)
  obtain ⟨transfers, htransfersPerm, htransfersValue⟩ :=
    value_itemList_of_window hwindow hserves.1
  obtain ⟨transactions, htransactionsPerm, htransactionsValue⟩ :=
    value_itemList_of_window hwindow hserves.2
  rw [if_pos htransfers] at htransfersValue
  rw [if_pos htransactions] at htransactionsValue
  refine ⟨_, value_fetch_of_ok hsince htransfersValue htransactionsValue, ?_⟩
  intro action haction item hitem
  have hpayload : item.payload ∈ (itemsFor items action inquiry).map (·.payload) :=
    List.mem_map_of_mem hitem
  obtain rfl | rfl := haction
  · exact List.mem_append_left _ (List.mem_map_of_mem (htransfersPerm.mem_iff.2 hpayload))
  · exact List.mem_append_right _ (List.mem_map_of_mem (htransactionsPerm.mem_iff.2 hpayload))

/-- Nothing is fetched if either list reaches too far, whatever the other one holds. -/
theorem value_fetch_of_overfull (hwindow : inquiry.window = some window)
    (hserves : Serves client explorer items inquiry) (hoverfull : Overfull items inquiry) :
    (fetch client inquiry).value explorer = .error (overfullFailure window) := by
  obtain ⟨transfers, -, htransfers⟩ := value_itemList_of_window hwindow hserves.1
  obtain ⟨transactions, -, htransactions⟩ := value_itemList_of_window hwindow hserves.2
  have hboth : (Proc.both (client.transfers inquiry.identity (listingFor inquiry)).run
      (client.transactions inquiry.identity (listingFor inquiry)).run).value explorer =
        .error (.overfull window.first window.last reachableItems) := by
    apply Proc.value_both_error
    · obtain hle | hle := hoverfull
      · exact .inl (htransfers.trans (if_neg (Nat.not_lt.2 hle)))
      · exact .inr (htransactions.trans (if_neg (Nat.not_lt.2 hle)))
    · intro e he
      have heq := htransfers.symm.trans he
      split at heq
      · cases heq
      · exact (Except.error.inj heq).symm
    · intro e he
      have heq := htransactions.symm.trans he
      split at heq
      · cases heq
      · exact (Except.error.inj heq).symm
  rw [value_fetch, hboth]
  rfl

/-- A list that fits on one page needs that page only. -/
theorem lists_of_lt {listed : List AccountItem}
    (hperm : listed.Perm (itemsOf items action address q))
    (hsorted : listed.Pairwise q.order.Agrees) (hlength : listed.length < q.pageSize)
    {url : String} {response : HttpResponse}
    (htarget : client.target (Client.pageParams action address q 1) = .ok url)
    (hanswer : explorer url = some response)
    (hshows : response.Shows (listed.map (·.payload))) :
    Lists client explorer items action address q := by
  refine ⟨listed, hperm, hsorted, ?_⟩
  intro earlier _ hstart
  obtain rfl : earlier = 0 := by
    have hpage : earlier * q.pageSize < 1 * q.pageSize := by omega
    have hlt := Nat.lt_of_mul_lt_mul_right hpage
    omega
  have hpage : q.pageAfter (listed.map (·.payload)) 0 = listed.map (·.payload) := by
    rw [Listing.pageAfter, Nat.zero_mul, List.drop_zero]
    apply List.take_of_length_le
    rw [List.length_map]
    exact Nat.le_of_lt hlength
  rw [hpage]
  exact ⟨url, response, htarget, hanswer, hshows⟩

def AccountItem.sample : AccountItem where
  action := transactionEndpoint
  address := "0xab"
  block := 105
  payload := .obj [("blockNumber", .str "105"), ("from", .str "0x1"), ("hash", .str "0x7"),
    ("timeStamp", .str "60"), ("to", .str "0xab"), ("value", .str "5")]

def Client.sample : Client :=
  ⟨"http://a.b", "key"⟩

/-- Where the first page of an action is asked for. -/
def sampleUrl (action : String) : String :=
  "http://a.b/?module=account&action=" ++ action ++
    "&address=0xab&startblock=100&endblock=109&page=1&offset=1000&sort=asc&apikey=key"

def sampleBody : String :=
  "\x7b\"status\":\"1\",\"message\":\"OK\",\"result\":[\x7b\"hash\":\"0x7\",\"from\":\"0x1\"," ++
    "\"to\":\"0xab\",\"value\":\"5\",\"blockNumber\":\"105\",\"timeStamp\":\"60\"\x7d]\x7d"

/-- The page without transactions, as it is sent. -/
def sampleEmptyBody : String :=
  "\x7b\"status\":\"0\",\"message\":\"No transactions found\",\"result\":[]\x7d"

def sampleExplorer (url : String) : Option HttpResponse :=
  some ⟨200, if url = sampleUrl transactionEndpoint then sampleBody else sampleEmptyBody⟩

def sampleInquiry : Inquiry :=
  ⟨"0xab", .ethereum, none, none, none, some ⟨100, 109⟩⟩

/-- Whether two results agree can be decided for their values only. -/
theorem ok_of_toOption {ε α : Type} {x : Except ε α} {a : α} (h : x.toOption = some a) :
    x = .ok a := by
  cases x with
  | error => cases h
  | ok => exact congrArg _ (Option.some.inj h)

theorem target_sample {action : String} (haction : action ∈ [tokenEndpoint, transactionEndpoint]) :
    Client.sample.target (Client.pageParams action "0xab" (.ofBlocks 100 109) 1) =
      .ok (sampleUrl action) := by
  have htarget : ∀ action ∈ [tokenEndpoint, transactionEndpoint], (Client.sample.target
      (Client.pageParams action "0xab" (.ofBlocks 100 109) 1)).toOption =
        some (sampleUrl action) := by
    decide +kernel
  exact ok_of_toOption (htarget action haction)

/-- What the sample transaction says. -/
theorem decode_sample : Transaction.decode AccountItem.sample.payload =
    .ok ⟨"105", "60", "0x7", "0x1", "0xab", "5", none, none⟩ :=
  ok_of_toOption (by decide +kernel)

theorem read?_sampleBody : Json.read? sampleBody =
    some (.obj [("message", .str "OK"), ("result", .arr [AccountItem.sample.payload]),
      ("status", .str "1")]) := by
  cbv

theorem read?_sampleEmptyBody : Json.read? sampleEmptyBody =
    some (.obj [("message", .str "No transactions found"), ("result", .arr []),
      ("status", .str "0")]) := by
  cbv

/-- An explorer that shows the one transaction of an address lists both actions as it should. -/
theorem serves_single {item : AccountItem} {body : String}
    (htransfers : itemsFor [item] tokenEndpoint sampleInquiry = [])
    (htransactions : itemsFor [item] transactionEndpoint sampleInquiry = [item])
    (hbody : Json.read? body = some (.obj [("message", .str "OK"), ("result", .arr [item.payload]),
      ("status", .str "1")])) :
    Serves .sample (fun url => some ⟨200, if url = sampleUrl transactionEndpoint then body
      else sampleEmptyBody⟩) [item] sampleInquiry := by
  have hsize : (Listing.ofBlocks 100 109).pageSize = 1000 := Listing.pageSize_ofBlocks _ _
  have hother : sampleUrl tokenEndpoint ≠ sampleUrl transactionEndpoint := by decide
  constructor
  · have hperm : List.Perm [] (itemsOf [item] tokenEndpoint "0xab" (.ofBlocks 100 109)) :=
      .of_eq htransfers.symm
    apply lists_of_lt hperm .nil (by rw [hsize]; decide) (target_sample (by decide)) rfl
    refine ⟨by simp, by simp, _, ?_, .none (.arr []) rfl⟩
    rw [if_neg hother]
    exact read?_sampleEmptyBody
  · have hperm : List.Perm [item] (itemsOf [item] transactionEndpoint "0xab"
        (.ofBlocks 100 109)) :=
      .of_eq htransactions.symm
    apply lists_of_lt hperm (List.pairwise_singleton _ _) (by rw [hsize]; simp)
      (target_sample (by decide)) rfl
    refine ⟨by simp, by simp, _, ?_, .listed "OK"⟩
    rw [if_pos rfl]
    exact hbody

/-- The sample explorer lists both actions as it should. -/
theorem serves_sample : Serves .sample sampleExplorer [.sample] sampleInquiry :=
  serves_single rfl rfl read?_sampleBody

/-- The one transaction of an address is what is fetched for the sample inquiry. -/
theorem value_fetch_single {item : AccountItem}
    (hserves : Serves .sample explorer [item] sampleInquiry)
    (htransfers : itemsFor [item] tokenEndpoint sampleInquiry = [])
    (htransactions : itemsFor [item] transactionEndpoint sampleInquiry = [item]) :
    (fetch .sample sampleInquiry).value explorer =
      .ok [⟨transactionEndpoint, item.payload⟩] := by
  obtain ⟨transfers, htransfersPerm, htransfersValue⟩ := value_itemList_of_window rfl hserves.1
  obtain ⟨transactions, htransactionsPerm, htransactionsValue⟩ :=
    value_itemList_of_window rfl hserves.2
  rw [htransfers] at htransfersPerm htransfersValue
  rw [htransactions] at htransactionsPerm htransactionsValue
  obtain rfl : transfers = [] := List.perm_nil.1 htransfersPerm
  obtain rfl : transactions = [item.payload] := List.perm_singleton.1 htransactionsPerm
  exact value_fetch_of_ok rfl htransfersValue htransactionsValue

/-- What is fetched for the sample inquiry. -/
theorem value_fetch_sample : (fetch .sample sampleInquiry).value sampleExplorer =
    .ok [⟨transactionEndpoint, AccountItem.sample.payload⟩] :=
  value_fetch_single serves_sample rfl rfl

end ChainCrawl.Explorer
