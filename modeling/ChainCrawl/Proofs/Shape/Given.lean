import ChainCrawl.Proofs.Json.Object
import ChainCrawl.Proofs.Shape.Fields

namespace ChainCrawl.Shape

open ChainCrawl.Json (Document)

theorem bind_eq_ok_iff {α β : Type} {x : Decoded α} {f : α → Decoded β} {b : β} :
    (x >>= f) = .ok b ↔ ∃ a, x = .ok a ∧ f a = .ok b := by
  cases x with
  | error e =>
    constructor
    · intro h
      cases h
    · rintro ⟨a, h, -⟩
      cases h
  | ok a =>
    constructor
    · exact fun h => ⟨a, rfl, h⟩
    · rintro ⟨a', h, hb⟩
      cases h
      exact hb

theorem text_eq_ok_iff {v : Json} {s : String} :
    text (Document.ofJson v) = .ok s ↔ v = .str s := by
  cases v with
  | str t => simp [Document.ofJson, text]
  | null | bool _ | int _ | float _ | arr _ | obj _ =>
    constructor
    · intro h
      cases h
    · intro h
      cases h

/-- Any value is read as it is, if it does not nest too deep where it stands. -/
theorem json_ofJson {v : Json} (h : v.Ordered) (outer : Nat) :
    json outer (.ofJson v) =
      if v.depth + outer ≤ Document.maxDepth then .ok v else .error .broken := by
  rw [json, Document.depth_ofJson, Document.toJson?_ofJson h]

/-- What is read and is not `null` is read where `null` is allowed, too. -/
theorem orNull_of_ok {α : Type} {decode : Document → Decoded α} {d : Document} {a : α}
    (hnull : d ≠ .null) (h : decode d = .ok a) : orNull decode d = .ok (some a) := by
  cases d with
  | null => exact absurd rfl hnull
  | _ => simp only [orNull, h]; rfl

theorem exists_orNull {α : Type} {decode : Document → Decoded α} {d : Document} {a : α}
    (h : decode d = .ok a) : ∃ o, orNull decode d = .ok o := by
  by_cases hnull : d = .null
  · exact ⟨none, by rw [hnull, orNull]⟩
  · exact ⟨some a, orNull_of_ok hnull h⟩

namespace Fields

variable {α β : Type} {data : String → Option Document} {name : String}

theorem build_map_eq_ok_iff {f : α → β} {x : Fields Document α} {b : β} :
    (f <$> x).build data = .ok b ↔ ∃ a, x.build data = .ok a ∧ f a = b := by
  rw [build_map]
  cases x.build data <;> simp [Except.map]

theorem build_seq_eq_ok_iff {x : Fields Document (α → β)} {y : Fields Document α} {b : β} :
    (x <*> y).build data = .ok b ↔
      ∃ f a, x.build data = .ok f ∧ y.build data = .ok a ∧ f a = b := by
  rw [build_seq]
  cases x.build data with
  | error e => simp [Except.bind]
  | ok f => cases y.build data <;> simp [Except.bind, Except.map]

/-- What a value gives for a field: an object by the field's name, an array by its place. -/
def given? (x : Fields Document α) (v : Json) (name : String) : Option Json :=
  match v with
  | .obj fields => Json.lookup name fields
  | .arr items => ((x.names.zip items).find? (·.1 = name)).map (·.2)
  | _ => none

theorem ofFields_eq_entries (fields : List (String × Json)) :
    Document.ofFields fields = (fields.map fun field => (field.1, Document.ofJson field.2)).map
      fun entry => (some entry.1, entry.2) := by
  rw [Document.ofFields_eq_map, List.map_map]
  rfl

theorem dataOf?_ofFields (fields : List (String × Json)) (name : String) :
    dataOf? (Document.ofFields fields) name = (Json.lookup name fields).map Document.ofJson := by
  rw [ofFields_eq_entries, dataOf?_map_some, List.find?_map, Json.lookup, Option.map_map,
    Option.map_map]
  rfl

/-- An object in which all fields of a record can be read, as far as it holds them, is read as what
these fields give, whatever else it holds. -/
theorem fromJson_of_obj {x : Fields Document α} {fields : List (String × Json)}
    (hsorted : Json.Sorted fields)
    (hsound : ∀ field ∈ x.list, ∀ v, Json.lookup field.name fields = some v →
      field.check (Document.ofJson v) = .ok ()) (origin : Origin) (name : String) :
    fromJson (record origin name x) (.obj fields) =
      x.build fun field => (Json.lookup field fields).map Document.ofJson := by
  let entries := fields.map fun field => (field.1, Document.ofJson field.2)
  have hentries : Document.ofFields fields = entries.map fun e => (some e.1, e.2) :=
    ofFields_eq_entries fields
  have hchecked : ∀ e ∈ entries, ∀ field ∈ x.list, field.name = e.1 →
      field.check e.2 = .ok () := by
    intro e he field hfield hname
    obtain ⟨⟨key, v⟩, hmem, rfl⟩ := List.mem_map.1 he
    obtain rfl : field.name = key := hname
    exact hsound field hfield v (hsorted.lookup_of_mem hmem)
  have honce : (entries.map (·.1)).Nodup := by
    rw [List.map_map]
    exact hsorted.nodup_names
  have hcheck := checkEntries_open_eq_ok x entries [] hchecked honce (by simp)
  have hdata : dataOf? (entries.map fun e => (some e.1, e.2)) =
      fun field => (Json.lookup field fields).map Document.ofJson := by
    rw [← hentries]
    exact funext (dataOf?_ofFields fields)
  simp only [fromJson, Document.ofJson, record, hentries]
  rw [ofEntries, hcheck, hdata]
  rfl

private theorem find?_zip_ofItems (names : List String) (items : List Json) (name : String) :
    ((names.zip (Document.ofItems items)).find? (·.1 = name)).map (·.2) =
      (((names.zip items).find? (·.1 = name)).map (·.2)).map Document.ofJson := by
  rw [Document.ofItems_eq_map, List.zip_map_right, List.find?_map, Option.map_map, Option.map_map]
  rfl

/-- A record is made of what was given for its fields, and only an object or an array gives any. -/
theorem build_of_fromJson {x : Fields Document α} {origin : Origin} {v : Json} {a : α}
    (h : fromJson (record origin name x) v = .ok a) :
    x.build (fun field => (x.given? v field).map Document.ofJson) = .ok a ∧
      ((∃ fields, v = .obj fields) ∨ ∃ items, v = .arr items) := by
  cases v with
  | obj fields =>
    refine ⟨?_, .inl ⟨fields, rfl⟩⟩
    obtain ⟨-, -, hbuild⟩ := bind_eq_ok_iff.1 h
    rw [← hbuild]
    congr 1
    funext field
    exact (dataOf?_ofFields fields field).symm
  | arr items =>
    refine ⟨?_, .inr ⟨items, rfl⟩⟩
    obtain ⟨made, hitems, hrest⟩ := bind_eq_ok_iff.1 h
    obtain ⟨-, -, hbuild⟩ := bind_eq_ok_iff.1 hitems
    obtain rfl : made = a := by
      split at hrest
      · exact Except.ok.inj hrest
      · cases origin <;> cases hrest
    rw [← hbuild]
    congr 1
    funext field
    exact (find?_zip_ofItems x.names items field).symm
  | null | bool _ | int _ | float _ | str _ => cases h

end Fields

end ChainCrawl.Shape
