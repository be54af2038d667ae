import ChainCrawl.Explorer.Fetch
import ChainCrawl.Proofs.Shape.Given

namespace ChainCrawl.Explorer

open ChainCrawl.Json (Document)
open ChainCrawl.Shape (Fields)

/-- The text was given for the field. -/
def GivesText (given : String → Option Json) (name text : String) : Prop :=
  given name = some (.str text)

/-- The field may be absent, and holds a text exactly where one was given. -/
def MayGiveText (given : String → Option Json) (name : String) (text? : Option String) : Prop :=
  ∀ text, text? = some text ↔ given name = some (.str text)

/-- The transfer holds what was given for its fields. -/
structure Transfer.Holds (transfer : Transfer) (given : String → Option Json) : Prop where
  blockNumber : GivesText given "blockNumber" transfer.blockNumber
  timeStamp : GivesText given "timeStamp" transfer.timeStamp
  hash : GivesText given "hash" transfer.hash
  logIndex : MayGiveText given "logIndex" transfer.logIndex
  sender : GivesText given "from" transfer.sender
  receiver : GivesText given "to" transfer.receiver
  value : GivesText given "value" transfer.value
  contractAddress : GivesText given "contractAddress" transfer.contractAddress
  tokenName : MayGiveText given "tokenName" transfer.tokenName
  tokenSymbol : MayGiveText given "tokenSymbol" transfer.tokenSymbol
  tokenDecimal : MayGiveText given "tokenDecimal" transfer.tokenDecimal

/-- The transaction holds what was given for its fields. -/
structure Transaction.Holds (tx : Transaction) (given : String → Option Json) : Prop where
  blockNumber : GivesText given "blockNumber" tx.blockNumber
  timeStamp : GivesText given "timeStamp" tx.timeStamp
  hash : GivesText given "hash" tx.hash
  sender : GivesText given "from" tx.sender
  receiver : GivesText given "to" tx.receiver
  value : GivesText given "value" tx.value
  isError : MayGiveText given "isError" tx.isError
  functionName : MayGiveText given "functionName" tx.functionName

variable {given : String → Option Json} {name : String} {payload : Json}

theorem givesText_of_build {text : String}
    (h : (Fields.field name Shape.text).build (fun field => (given field).map Document.ofJson) =
      .ok text) : GivesText given name text := by
  unfold GivesText
  cases hgiven : given name with
  | none =>
    simp only [Fields.field, Fields.fieldOr, hgiven, Option.map_none] at h
    cases h
  | some v =>
    simp only [Fields.field, Fields.fieldOr, hgiven, Option.map_some] at h
    rw [Shape.text_eq_ok_iff.1 h]

theorem mayGiveText_of_build {text? : Option String}
    (h : (textField name).build (fun field => (given field).map Document.ofJson) = .ok text?) :
    MayGiveText given name text? := by
  intro text
  cases hgiven : given name with
  | none =>
    simp only [textField, Fields.fieldD, Fields.fieldOr, hgiven, Option.map_none] at h
    obtain rfl := Except.ok.inj h
    simp
  | some v =>
    simp only [textField, Fields.fieldD, Fields.fieldOr, hgiven, Option.map_some] at h
    cases v with
    | str s =>
      obtain rfl := Except.ok.inj h
      simp
    | null =>
      obtain rfl := Except.ok.inj h
      simp
    | bool _ | int _ | float _ | arr _ | obj _ => cases h

theorem fromJson_of_decode {α : Type} {x : Fields Document α} {a : α}
    (h : decode name x payload = .ok a) :
    Shape.fromJson (Shape.record .value name x) payload = .ok a := by
  unfold decode at h
  cases hread : Shape.fromJson (Shape.record .value name x) payload with
  | error e =>
    rw [hread] at h
    cases h
  | ok a' =>
    rw [hread] at h
    exact congrArg Except.ok (Except.ok.inj h)

theorem Transfer.holds_of_build {transfer : Transfer}
    (h : Transfer.fields.build (fun field => (given field).map Document.ofJson) = .ok transfer) :
    transfer.Holds given := by
  simp only [Transfer.fields, Fields.build_seq_eq_ok_iff, Fields.build_map_eq_ok_iff] at h
  obtain ⟨_, tokenDecimal, ⟨_, tokenSymbol, ⟨_, tokenName, ⟨_, contractAddress, ⟨_, value,
    ⟨_, receiver, ⟨_, sender, ⟨_, logIndex, ⟨_, hash, ⟨_, timeStamp,
    ⟨blockNumber, hblockNumber, rfl⟩, htimeStamp, rfl⟩, hhash, rfl⟩, hlogIndex, rfl⟩, hsender, rfl⟩,
    hreceiver, rfl⟩, hvalue, rfl⟩, hcontractAddress, rfl⟩, htokenName, rfl⟩, htokenSymbol, rfl⟩,
    htokenDecimal, rfl⟩ := h
  exact {
    blockNumber := givesText_of_build hblockNumber
    timeStamp := givesText_of_build htimeStamp
    hash := givesText_of_build hhash
    logIndex := mayGiveText_of_build hlogIndex
    sender := givesText_of_build hsender
    receiver := givesText_of_build hreceiver
    value := givesText_of_build hvalue
    contractAddress := givesText_of_build hcontractAddress
    tokenName := mayGiveText_of_build htokenName
    tokenSymbol := mayGiveText_of_build htokenSymbol
    tokenDecimal := mayGiveText_of_build htokenDecimal }

theorem Transaction.holds_of_build {tx : Transaction}
    (h : Transaction.fields.build (fun field => (given field).map Document.ofJson) = .ok tx) :
    tx.Holds given := by
  simp only [Transaction.fields, Fields.build_seq_eq_ok_iff, Fields.build_map_eq_ok_iff] at h
  obtain ⟨_, functionName, ⟨_, isError, ⟨_, value, ⟨_, receiver, ⟨_, sender, ⟨_, hash,
    ⟨_, timeStamp, ⟨blockNumber, hblockNumber, rfl⟩, htimeStamp, rfl⟩, hhash, rfl⟩, hsender, rfl⟩,
    hreceiver, rfl⟩, hvalue, rfl⟩, hisError, rfl⟩, hfunctionName, rfl⟩ := h
  exact {
    blockNumber := givesText_of_build hblockNumber
    timeStamp := givesText_of_build htimeStamp
    hash := givesText_of_build hhash
    sender := givesText_of_build hsender
    receiver := givesText_of_build hreceiver
    value := givesText_of_build hvalue
    isError := mayGiveText_of_build hisError
    functionName := mayGiveText_of_build hfunctionName }

/-- No premise on the shape of the item is needed: an array gives texts by their places. -/
theorem Transfer.holds_of_decode {transfer : Transfer}
    (h : Transfer.decode payload = .ok transfer) :
    transfer.Holds (Transfer.fields.given? payload) :=
  holds_of_build (Fields.build_of_fromJson (fromJson_of_decode h)).1

theorem Transaction.holds_of_decode {tx : Transaction} (h : Transaction.decode payload = .ok tx) :
    tx.Holds (Transaction.fields.given? payload) :=
  holds_of_build (Fields.build_of_fromJson (fromJson_of_decode h)).1

/-- What an event gives for the fields of an item of its endpoint. -/
def eventField? (event : Event) : String → Option Json :=
  if event.endpoint = tokenEndpoint then Transfer.fields.given? event.payload
  else Transaction.fields.given? event.payload

theorem eventField?_of_transfer {event : Event} (h : event.endpoint = tokenEndpoint) :
    eventField? event = Transfer.fields.given? event.payload := if_pos h

theorem eventField?_of_transaction {event : Event} (h : event.endpoint = transactionEndpoint) :
    eventField? event = Transaction.fields.given? event.payload := by
  have hne : transactionEndpoint ≠ tokenEndpoint := by decide
  rw [← h] at hne
  exact if_neg hne

/-- No premise on the endpoint is needed: an object gives its fields by their names. -/
theorem eventField?_obj (endpoint : String) (fields : List (String × Json)) (name : String) :
    eventField? ⟨endpoint, .obj fields⟩ name = Json.lookup name fields := by
  unfold eventField?
  split <;> rfl

end ChainCrawl.Explorer
