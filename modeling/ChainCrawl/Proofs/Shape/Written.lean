import ChainCrawl.Proofs.Shape.Fields

namespace ChainCrawl.Shape.Fields

variable {δ α β : Type}

theorem dataOf?_append (first rest : List (Option String × δ)) (name : String) :
    dataOf? (first ++ rest) name = (dataOf? first name).or (dataOf? rest name) := by
  unfold dataOf?
  rw [List.find?_append]
  cases first.find? (·.1 = some name) <;> rfl

theorem dataOf?_eq_none {entries : List (Option String × δ)} {name : String}
    (h : ∀ e ∈ entries, e.1 ≠ some name) : dataOf? entries name = none := by
  simpa [dataOf?] using h

theorem find?_name_eq {list : List (Field δ)} (h : (list.map (·.name)).Nodup) {field : Field δ}
    (hfield : field ∈ list) : list.find? (·.name = field.name) = some field := by
  induction list with
  | nil => cases hfield
  | cons head rest ih =>
    obtain ⟨hhead, hrest⟩ := List.nodup_cons.1 h
    obtain rfl | hmem := List.mem_cons.1 hfield
    · exact List.find?_cons_of_pos (by simp)
    · have hne : head.name ≠ field.name := fun heq =>
        hhead (List.mem_map.2 ⟨field, hmem, heq.symm⟩)
      rw [List.find?_cons_of_neg (by simpa using hne)]
      exact ih hrest hmem

/-- The entries are what a value is written as. -/
structure Writes (x : Fields δ α) (entries : List (Option String × δ)) (a : α) : Prop where
  /-- Each entry is of a field, which finds no fault in it. -/
  sound : ∀ e ∈ entries, ∃ field ∈ x.list, e.1 = some field.name ∧ field.check e.2 = .ok ()
  once : (entries.map (·.1)).Nodup
  /-- Only the names of the fields are looked at. -/
  build : ∀ data : String → Option δ,
    (∀ field ∈ x.list, data field.name = dataOf? entries field.name) → x.build data = .ok a

namespace Writes

variable {x : Fields δ α} {entries : List (Option String × δ)} {a : α}

theorem map (h : Writes x entries a) (f : α → β) : Writes (f <$> x) entries (f a) where
  sound := h.sound
  once := h.once
  build data hdata := by
    rw [build_map, h.build data hdata]
    rfl

/-- A field that is written, whether or not it may be left out. -/
theorem given {decode : δ → Decoded α} {d : δ} (h : decode d = .ok a) (name : String)
    (mayEnd : Bool) (absent : Decoded α) :
    Writes (fieldOr name mayEnd absent decode) [(some name, d)] a where
  sound e he := by
    obtain rfl := List.mem_singleton.1 he
    refine ⟨_, List.mem_singleton_self _, rfl, ?_⟩
    simp only [h]
    rfl
  once := by simp
  build data hdata := by
    have hname : data name = some d := by
      simpa [dataOf?] using hdata _ (List.mem_singleton_self _)
    simp only [fieldOr, hname, h]

/-- A field that is left out has the value that stands for its absence. -/
theorem leftOut (decode : δ → Decoded α) (name : String) (mayEnd : Bool) (a : α) :
    Writes (fieldOr name mayEnd (.ok a) decode) [] a where
  sound e he := by cases he
  once := List.nodup_nil
  build data hdata := by
    have hname : data name = none := hdata _ (List.mem_singleton_self _)
    simp only [fieldOr, hname]

/-- Two parts of a record are written one after the other, where they share no field. -/
theorem seq {x : Fields δ (α → β)} {y : Fields δ α} {f : α → β}
    {more : List (Option String × δ)} (hx : Writes x entries f) (hy : Writes y more a)
    (hne : ∀ m ∈ x.list, ∀ n ∈ y.list, m.name ≠ n.name) :
    Writes (x <*> y) (entries ++ more) (f a) where
  sound e he := by
    obtain he | he := List.mem_append.1 he
    · obtain ⟨field, hfield, h⟩ := hx.sound e he
      exact ⟨field, List.mem_append_left _ hfield, h⟩
    · obtain ⟨field, hfield, h⟩ := hy.sound e he
      exact ⟨field, List.mem_append_right _ hfield, h⟩
  once := by
    rw [List.map_append, List.nodup_append]
    refine ⟨hx.once, hy.once, fun name hname name' hname' heq => ?_⟩
    obtain ⟨e, he, rfl⟩ := List.mem_map.1 hname
    obtain ⟨e', he', rfl⟩ := List.mem_map.1 hname'
    obtain ⟨m, hm, hem, -⟩ := hx.sound e he
    obtain ⟨n, hn, hen, -⟩ := hy.sound e' he'
    exact hne m hm n hn (Option.some.inj (by rw [← hem, ← hen, heq]))
  build data hdata := by
    have hleft : x.build data = .ok f := by
      refine hx.build data fun m hm => ?_
      have hnone : dataOf? more m.name = none := dataOf?_eq_none fun e he heq => by
        obtain ⟨n, hn, hen, -⟩ := hy.sound e he
        exact hne m hm n hn (Option.some.inj (heq.symm.trans hen))
      rw [hdata m (List.mem_append_left _ hm), dataOf?_append, hnone, Option.or_none]
    have hright : y.build data = .ok a := by
      refine hy.build data fun n hn => ?_
      have hnone : dataOf? entries n.name = none := dataOf?_eq_none fun e he heq => by
        obtain ⟨m, hm, hem, -⟩ := hx.sound e he
        exact hne m hm n hn (Option.some.inj (hem.symm.trans heq))
      rw [hdata n (List.mem_append_right _ hn), dataOf?_append, hnone, Option.none_or]
    rw [build_seq, hleft, hright]
    rfl

private theorem checkEntries_eq_ok (x : Fields δ α) (hnames : x.names.Nodup) (closed : Bool) :
    ∀ (entries : List (Option String × δ)) (seen : List String),
      (∀ e ∈ entries, ∃ field ∈ x.list, e.1 = some field.name ∧ field.check e.2 = .ok ()) →
      (entries.map (·.1)).Nodup → (∀ name ∈ seen, some name ∉ entries.map (·.1)) →
      x.checkEntries closed seen entries = .ok ()
  | [], _, _, _, _ => rfl
  | e :: rest, seen, hsound, honce, hseen => by
    obtain ⟨field, hfield, hname, hcheck⟩ := hsound e List.mem_cons_self
    obtain ⟨name, d⟩ := e
    obtain rfl : name = some field.name := hname
    obtain ⟨hhead, hrest⟩ := List.nodup_cons.1 honce
    have hfresh : seen.contains field.name = false := by
      refine Bool.eq_false_iff.2 fun hcontains => ?_
      exact hseen _ (List.contains_iff_mem.1 hcontains) List.mem_cons_self
    have hmore : x.checkEntries closed (field.name :: seen) rest = .ok () := by
      refine checkEntries_eq_ok x hnames closed rest _
        (fun e he => hsound e (List.mem_cons_of_mem _ he)) hrest fun name hmem => ?_
      obtain rfl | hmem := List.mem_cons.1 hmem
      · exact hhead
      · exact fun h => hseen name hmem (List.mem_cons_of_mem _ h)
    simp only [checkEntries, find?_name_eq hnames hfield, hfresh, hcheck]
    exact hmore

/-- What was written is read, also by a record that knows no other fields. -/
theorem ofEntries_eq (h : Writes x entries a) (hnames : x.names.Nodup) (closed : Bool) :
    x.ofEntries closed entries = .ok a := by
  have hcheck : x.checkEntries closed [] entries = .ok () :=
    checkEntries_eq_ok x hnames closed entries [] h.sound h.once fun name hname => by cases hname
  rw [ofEntries, hcheck]
  exact h.build _ fun _ _ => rfl

end Writes

end ChainCrawl.Shape.Fields
