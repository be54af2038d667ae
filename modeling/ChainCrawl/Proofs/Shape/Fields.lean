import ChainCrawl.Shape.Json

namespace ChainCrawl.Shape.Fields

variable {δ α β : Type} {name : String} {data : String → Option δ}

@[simp]
theorem list_map (f : α → β) (x : Fields δ α) : (f <$> x).list = x.list := rfl

@[simp]
theorem list_seq (f : Fields δ (α → β)) (x : Fields δ α) : (f <*> x).list = f.list ++ x.list := rfl

@[simp]
theorem list_fieldOr (mayEnd : Bool) (absent : Decoded α) (decode : δ → Decoded α) :
    (fieldOr name mayEnd absent decode).list =
      [⟨name, fun d => (decode d).map fun _ => (), mayEnd⟩] := rfl

@[simp]
theorem list_field (decode : δ → Decoded α) :
    (field name decode).list = [⟨name, fun d => (decode d).map fun _ => (), false⟩] := rfl

@[simp]
theorem list_optional (decode : δ → Decoded (Option α)) :
    (optional name decode).list = [⟨name, fun d => (decode d).map fun _ => (), false⟩] := rfl

@[simp]
theorem list_fieldD (decode : δ → Decoded α) (absent : α) :
    (fieldD name decode absent).list = [⟨name, fun d => (decode d).map fun _ => (), true⟩] := rfl

theorem build_map (f : α → β) (x : Fields δ α) : (f <$> x).build data = (x.build data).map f := by
  change (do let a ← x.build data; pure (f a)) = _
  cases x.build data <;> rfl

theorem build_seq (f : Fields δ (α → β)) (x : Fields δ α) :
    (f <*> x).build data = (f.build data).bind fun g => (x.build data).map g := by
  change (do let g ← f.build data; let a ← x.build data; pure (g a)) = _
  cases f.build data with
  | error e => rfl
  | ok g => cases x.build data <;> rfl

theorem dataOf?_map_some (entries : List (String × δ)) (name : String) :
    dataOf? (entries.map fun e => (some e.1, e.2)) name =
      (entries.find? (·.1 = name)).map (·.2) := by
  simp [dataOf?, List.find?_map, Function.comp_def]

/-- Where no name is written twice and no known field is at fault, other fields do not matter to a
record that is open to them. -/
theorem checkEntries_open_eq_ok (x : Fields δ α) :
    ∀ (entries : List (String × δ)) (seen : List String),
      (∀ e ∈ entries, ∀ field ∈ x.list, field.name = e.1 → field.check e.2 = .ok ()) →
      (entries.map (·.1)).Nodup → (∀ name ∈ seen, name ∉ entries.map (·.1)) →
      x.checkEntries false seen (entries.map fun e => (some e.1, e.2)) = .ok ()
  | [], _, _, _, _ => rfl
  | (name, d) :: rest, seen, hsound, honce, hseen => by
    obtain ⟨hhead, hrest⟩ := List.nodup_cons.1 honce
    have hmore (seen' : List String) (hseen' : ∀ n ∈ seen', n = name ∨ n ∈ seen) :
        x.checkEntries false seen' (rest.map fun e => (some e.1, e.2)) = .ok () := by
      refine checkEntries_open_eq_ok x rest seen'
        (fun e he => hsound e (List.mem_cons_of_mem _ he)) hrest fun n hn => ?_
      obtain rfl | hn := hseen' n hn
      · exact hhead
      · exact fun h => hseen n hn (List.mem_cons_of_mem _ h)
    rw [List.map_cons, checkEntries]
    split
    · exact hmore seen fun n hn => .inr hn
    · rename_i field hfield
      have hfresh : seen.contains name = false := by
        refine Bool.eq_false_iff.2 fun hcontains => ?_
        exact hseen _ (List.contains_iff_mem.1 hcontains) List.mem_cons_self
      have hname : field.name = name := by simpa using List.find?_some hfield
      have hcheck := hsound _ List.mem_cons_self field (List.mem_of_find?_eq_some hfield) hname
      rw [if_neg (Bool.eq_false_iff.1 hfresh), hcheck]
      exact hmore (name :: seen) fun n hn => List.mem_cons.1 hn

theorem build_field_of_some {decode : δ → Decoded α} {d : δ} (h : data name = some d) :
    (field name decode).build data = decode d := by
  simp only [field, fieldOr, h]

end ChainCrawl.Shape.Fields
