import ChainCrawl.Json.Access
import ChainCrawl.Network
import ChainCrawl.Proofs.Json.RoundTrip
import ChainCrawl.Proofs.Shape.Given
import ChainCrawl.Proofs.Shape.Written
import ChainCrawl.Proofs.Time.Timestamp
import ChainCrawl.Shape.Json

namespace ChainCrawl.Shape

open ChainCrawl.Json (Document)

theorem text_str (s : String) : text (.str s) = .ok s := rfl

theorem oneCase_network (n : Network) : oneCase Network.cases (.str n.name) = .ok n := by
  cases n <;> rfl

theorem oneCase_platform (p : Platform) : oneCase Platform.cases (.str p.name) = .ok p := by
  cases p <;> rfl

theorem oneCase_activityKind (k : ActivityKind) :
    oneCase ActivityKind.cases (.str k.name) = .ok k := by
  cases k <;> rfl

theorem wholeBetween_int {least greatest i : Int} (hleast : least ≤ i) (hgreatest : i ≤ greatest)
    (wanted : String) : wholeBetween least greatest wanted (.int i) = .ok i :=
  if_pos ⟨hleast, hgreatest⟩

theorem uint32_toNat (n : UInt32) : uint32 (.int n.toNat) = .ok n := by
  have hlt : n.toNat < 4294967296 := n.toNat_lt
  rw [uint32, wholeBetween_int (by omega) (by simp only [Word.maxUInt32]; omega)]
  change Except.ok (UInt32.ofNat ((n.toNat : Int).toNat)) = _
  rw [Int.toNat_natCast, UInt32.ofNat_toNat]

theorem instant_text (t : Time.Instant) : instant (.str t.text) = .ok t := by
  simp only [instant, t.read?_text]

/-- A sequence is read if each of its items is, and none of them is left out or moved. -/
theorem list_arr {α : Type} {decode : Document → Decoded α} {write : α → Json}
    (h : ∀ a, decode (.ofJson (write a)) = .ok a) (as : List α) :
    list decode (.ofJson (.arr (as.map write))) = .ok as := by
  rw [Document.ofJson, Document.ofItems_eq_map, list]
  induction as with
  | nil => rfl
  | cons a rest ih =>
    rw [List.map_cons, List.map_cons, List.mapM_cons, h, ih]
    rfl

/-- What the text of a value is read as is what the value itself is read as. -/
theorem fromText_render {α : Type} {decode : Document → Decoded α} {v : Json} {a : α}
    (h : v.Whole) : fromText decode v.render = .ok a ↔ decode (.ofJson v) = .ok a := by
  simp only [fromText, Document.read?_render h]
  cases decode (.ofJson v) with
  | ok a' => simp
  | error e => simp

/-- A field that must be there is written with its value. -/
theorem Fields.Writes.field {α : Type} {decode : Document → Decoded α} {v : Json} {a : α}
    (h : decode (.ofJson v) = .ok a) (name : String) :
    Writes (.field name decode) (Document.ofFields [(name, v)]) a :=
  .given h name false (.error (.missingField name))

/-- The same where the value is written as a text. -/
theorem Fields.Writes.fieldOfText {α : Type} {decode : Document → Decoded α} {s : String} {a : α}
    (h : decode (.str s) = .ok a) (name : String) :
    Writes (.field name decode) (Document.ofFields [(name, .str s)]) a :=
  .field h name

/-- A field that is written where its value is present, and left out else. -/
theorem Fields.Writes.optionalField {α : Type} {decode : Document → Decoded α} (write : α → Json)
    (hnull : ∀ a, Document.ofJson (write a) ≠ .null)
    (h : ∀ a, decode (.ofJson (write a)) = .ok a) (name : String) (o : Option α) :
    Writes (.fieldD name (orNull decode) none)
      (Document.ofFields (Json.optionalField name (o.map write))) o := by
  cases o with
  | none => exact .leftOut (orNull decode) name true none
  | some a => exact .given (orNull_of_ok (hnull a) (h a)) name true (.ok none)

end ChainCrawl.Shape
