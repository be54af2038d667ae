import ChainCrawl.Json.Document

namespace ChainCrawl.Json

/-- The names of fields ascend, so none is held twice. -/
def Sorted (fields : List (String × Json)) : Prop :=
  fields.Pairwise (·.1 < ·.1)

theorem mem_insert {key : String} {value : Json} {fields : List (String × Json)}
    {field : String × Json} (h : field ∈ insert key value fields) :
    field = (key, value) ∨ field ∈ fields := by
  induction fields with
  | nil => exact .inl (List.mem_singleton.1 h)
  | cons head rest ih =>
    obtain ⟨k, v⟩ := head
    unfold insert at h
    split at h
    · exact List.mem_cons.1 h
    · split at h
      · obtain h | h := List.mem_cons.1 h
        · exact .inl h
        · exact .inr (List.mem_cons_of_mem _ h)
      · obtain h | h := List.mem_cons.1 h
        · exact .inr (h ▸ List.mem_cons_self)
        · obtain h | h := ih h
          · exact .inl h
          · exact .inr (List.mem_cons_of_mem _ h)

theorem Sorted.insert {fields : List (String × Json)} (h : Sorted fields) (key : String)
    (value : Json) : Sorted (insert key value fields) := by
  induction fields with
  | nil => exact List.pairwise_singleton _ _
  | cons head rest ih =>
    obtain ⟨k, v⟩ := head
    obtain ⟨hhead, hrest⟩ := List.pairwise_cons.1 h
    unfold Json.insert
    split
    · rename_i hlt
      refine List.pairwise_cons.2 ⟨fun field hfield => ?_, h⟩
      obtain rfl | hfield := List.mem_cons.1 hfield
      · exact hlt
      · exact String.lt_trans hlt (hhead field hfield)
    · split
      · rename_i heq
        exact List.pairwise_cons.2 ⟨fun field hfield => heq ▸ hhead field hfield, hrest⟩
      · rename_i hnot hne
        refine List.pairwise_cons.2 ⟨fun field hfield => ?_, ih hrest⟩
        obtain rfl | hfield := mem_insert hfield
        · by_cases hlt : k < key
          · exact hlt
          · exact absurd (String.le_antisymm (String.not_lt.1 hlt) (String.not_lt.1 hnot)) hne
        · exact hhead field hfield

theorem sorted_foldl_insert {object fields : List (String × Json)} (h : Sorted object) :
    Sorted (fields.foldl (fun object (key, value) => insert key value object) object) := by
  induction fields generalizing object with
  | nil => exact h
  | cons field rest ih => exact ih (h.insert field.1 field.2)

theorem sorted_fieldsOfList (fields : List (String × Json)) : Sorted (fieldsOfList fields) :=
  sorted_foldl_insert .nil

theorem mem_foldl_insert {object fields : List (String × Json)} {field : String × Json}
    (h : field ∈ fields.foldl (fun object (key, value) => insert key value object) object) :
    field ∈ object ∨ field ∈ fields := by
  induction fields generalizing object with
  | nil => exact .inl h
  | cons first rest ih =>
    obtain h | h := ih h
    · obtain rfl | h := mem_insert h
      · exact .inr List.mem_cons_self
      · exact .inl h
    · exact .inr (List.mem_cons_of_mem _ h)

/-- Fields are not lost into others when an object is made of them. -/
theorem mem_of_mem_fieldsOfList {fields : List (String × Json)} {field : String × Json}
    (h : field ∈ fieldsOfList fields) : field ∈ fields := by
  obtain h | h := mem_foldl_insert h
  · cases h
  · exact h

theorem insert_of_forall_lt {key : String} {value : Json} {fields : List (String × Json)}
    (h : ∀ field ∈ fields, field.1 < key) : insert key value fields = fields ++ [(key, value)] := by
  induction fields with
  | nil => rfl
  | cons head rest ih =>
    obtain ⟨k, v⟩ := head
    have hlt : k < key := h (k, v) List.mem_cons_self
    have hnot : ¬ key < k := fun hkey => String.lt_irrefl key (String.lt_trans hkey hlt)
    have hne : key ≠ k := fun heq => String.lt_irrefl k (heq ▸ hlt)
    have hrest := ih fun field hfield => h field (List.mem_cons_of_mem _ hfield)
    rw [insert, if_neg hnot, if_neg hne, hrest]
    rfl

theorem foldl_insert_of_sorted {object fields : List (String × Json)}
    (h : Sorted (object ++ fields)) :
    fields.foldl (fun object (key, value) => insert key value object) object =
      object ++ fields := by
  induction fields generalizing object with
  | nil => simp
  | cons field rest ih =>
    obtain ⟨key, value⟩ := field
    have hlt : ∀ other ∈ object, other.1 < key := fun other hother =>
      (List.pairwise_append.1 h).2.2 other hother _ List.mem_cons_self
    rw [List.foldl_cons]
    dsimp only
    rw [insert_of_forall_lt hlt, ih (by simpa using h)]
    simp

/-- Fields in the order of an object make that object. -/
theorem fieldsOfList_of_sorted {fields : List (String × Json)} (h : Sorted fields) :
    fieldsOfList fields = fields :=
  @foldl_insert_of_sorted [] fields h

mutual
/-- Every object inside is a map with ascending field names. -/
def Ordered : Json → Prop
  | arr items => OrderedItems items
  | obj fields => Sorted fields ∧ OrderedFields fields
  | _ => True

def OrderedItems : List Json → Prop
  | [] => True
  | v :: rest => v.Ordered ∧ OrderedItems rest

def OrderedFields : List (String × Json) → Prop
  | [] => True
  | (_, v) :: rest => v.Ordered ∧ OrderedFields rest
end

theorem orderedFields_iff {fields : List (String × Json)} :
    OrderedFields fields ↔ ∀ field ∈ fields, field.2.Ordered := by
  induction fields with
  | nil => simp [OrderedFields]
  | cons field rest ih => simp [OrderedFields, ih]

theorem fieldsDepth_le_iff {fields : List (String × Json)} {n : Nat} :
    fieldsDepth fields ≤ n ↔ ∀ field ∈ fields, field.2.depth ≤ n := by
  induction fields with
  | nil => simp [fieldsDepth]
  | cons field rest ih => simp only [fieldsDepth, Nat.max_le, ih, List.forall_mem_cons]

theorem itemsDepth_map_le {α : Type} {write : α → Json} {n : Nat} (h : ∀ a, (write a).depth ≤ n)
    (as : List α) : itemsDepth (as.map write) ≤ n := by
  induction as with
  | nil => exact Nat.zero_le n
  | cons a rest ih => exact Nat.max_le.2 ⟨h a, ih⟩

namespace Document

mutual
theorem ordered_of_toJson? : ∀ {d : Document} {v : Json}, d.toJson? = some v → v.Ordered
  | .null, v, h | .bool _, v, h | .int _, v, h | .float _, v, h | .str _, v, h => by
    obtain rfl := Option.some.inj h
    trivial
  | .broken, v, h => by cases h
  | .arr items, v, h => by
    obtain ⟨vs, hvs, rfl⟩ := Option.map_eq_some_iff.1 h
    exact ordered_of_toItems? hvs
  | .obj fields, v, h => by
    obtain ⟨fs, hfs, rfl⟩ := Option.map_eq_some_iff.1 h
    refine ⟨sorted_fieldsOfList fs, orderedFields_iff.2 fun field hfield => ?_⟩
    exact orderedFields_iff.1 (ordered_of_toFields? hfs) field (mem_of_mem_fieldsOfList hfield)

theorem ordered_of_toItems? :
    ∀ {ds : List Document} {vs : List Json}, toItems? ds = some vs → OrderedItems vs
  | [], vs, h => by
    obtain rfl := Option.some.inj h
    trivial
  | d :: rest, vs, h => by
    unfold toItems? at h
    split at h
    · rename_i v more hv hmore
      obtain rfl := Option.some.inj h
      exact ⟨ordered_of_toJson? hv, ordered_of_toItems? hmore⟩
    · cases h

theorem ordered_of_toFields? :
    ∀ {ds : List (Option String × Document)} {vs : List (String × Json)},
      toFields? ds = some vs → OrderedFields vs
  | [], vs, h => by
    obtain rfl := Option.some.inj h
    trivial
  | (some key, d) :: rest, vs, h => by
    unfold toFields? at h
    split at h
    · rename_i v more hv hmore
      obtain rfl := Option.some.inj h
      exact ⟨ordered_of_toJson? hv, ordered_of_toFields? hmore⟩
    · cases h
  | (none, d) :: rest, vs, h => by cases h
end

mutual
/-- The value of a document nests no deeper than the document. -/
theorem depth_le_of_toJson? :
    ∀ {d : Document} {v : Json}, d.toJson? = some v → v.depth ≤ d.depth
  | .null, v, h | .bool _, v, h | .int _, v, h | .float _, v, h | .str _, v, h => by
    obtain rfl := Option.some.inj h
    exact Nat.le_refl _
  | .broken, v, h => by cases h
  | .arr items, v, h => by
    obtain ⟨vs, hvs, rfl⟩ := Option.map_eq_some_iff.1 h
    exact Nat.succ_le_succ (itemsDepth_le_of_toItems? hvs)
  | .obj fields, v, h => by
    obtain ⟨fs, hfs, rfl⟩ := Option.map_eq_some_iff.1 h
    refine Nat.succ_le_succ (fieldsDepth_le_iff.2 fun field hfield => ?_)
    exact fieldsDepth_le_iff.1 (fieldsDepth_le_of_toFields? hfs) field
      (mem_of_mem_fieldsOfList hfield)

theorem itemsDepth_le_of_toItems? :
    ∀ {ds : List Document} {vs : List Json}, toItems? ds = some vs →
      Json.itemsDepth vs ≤ itemsDepth ds
  | [], vs, h => by
    obtain rfl := Option.some.inj h
    exact Nat.le_refl _
  | d :: rest, vs, h => by
    unfold toItems? at h
    split at h
    · rename_i v more hv hmore
      obtain rfl := Option.some.inj h
      have hfirst := depth_le_of_toJson? hv
      have hrest := itemsDepth_le_of_toItems? hmore
      simp only [Json.itemsDepth, itemsDepth]
      omega
    · cases h

theorem fieldsDepth_le_of_toFields? :
    ∀ {ds : List (Option String × Document)} {vs : List (String × Json)},
      toFields? ds = some vs → Json.fieldsDepth vs ≤ fieldsDepth ds
  | [], vs, h => by
    obtain rfl := Option.some.inj h
    exact Nat.le_refl _
  | (some key, d) :: rest, vs, h => by
    unfold toFields? at h
    split at h
    · rename_i v more hv hmore
      obtain rfl := Option.some.inj h
      have hfirst := depth_le_of_toJson? hv
      have hrest := fieldsDepth_le_of_toFields? hmore
      simp only [Json.fieldsDepth, fieldsDepth]
      omega
    · cases h
  | (none, d) :: rest, vs, h => by cases h
end

mutual
theorem toJson?_ofJson : ∀ {v : Json}, v.Ordered → (ofJson v).toJson? = some v
  | .null, _ | .bool _, _ | .int _, _ | .float _, _ | .str _, _ => rfl
  | .arr items, h => by
    simp only [ofJson, toJson?, @toItems?_ofItems items h, Option.map_some]
  | .obj fields, h => by
    simp only [ofJson, toJson?, toFields?_ofFields h.2, Option.map_some,
      fieldsOfList_of_sorted h.1]

theorem toItems?_ofItems : ∀ {vs : List Json}, OrderedItems vs → toItems? (ofItems vs) = some vs
  | [], _ => rfl
  | v :: rest, h => by
    simp only [ofItems, toItems?, toJson?_ofJson h.1, toItems?_ofItems h.2]

theorem toFields?_ofFields :
    ∀ {vs : List (String × Json)}, OrderedFields vs → toFields? (ofFields vs) = some vs
  | [], _ => rfl
  | (key, v) :: rest, h => by
    simp only [ofFields, toFields?, toJson?_ofJson h.1, toFields?_ofFields h.2]
end

mutual
theorem depth_ofJson : ∀ v : Json, (ofJson v).depth = v.depth
  | .null | .bool _ | .int _ | .float _ | .str _ => rfl
  | .arr items => congrArg (· + 1) (itemsDepth_ofItems items)
  | .obj fields => congrArg (· + 1) (fieldsDepth_ofFields fields)

theorem itemsDepth_ofItems : ∀ vs : List Json, itemsDepth (ofItems vs) = Json.itemsDepth vs
  | [] => rfl
  | v :: rest => by
    simp only [ofItems, itemsDepth, Json.itemsDepth, depth_ofJson v, itemsDepth_ofItems rest]

theorem fieldsDepth_ofFields :
    ∀ vs : List (String × Json), fieldsDepth (ofFields vs) = Json.fieldsDepth vs
  | [] => rfl
  | (key, v) :: rest => by
    simp only [ofFields, fieldsDepth, Json.fieldsDepth, depth_ofJson v, fieldsDepth_ofFields rest]
end

theorem ofItems_eq_map (items : List Json) : ofItems items = items.map ofJson := by
  induction items with
  | nil => rfl
  | cons v rest ih => exact congrArg (_ :: ·) ih

theorem ofFields_eq_map (fields : List (String × Json)) :
    ofFields fields = fields.map fun field => (some field.1, ofJson field.2) := by
  induction fields with
  | nil => rfl
  | cons field rest ih => exact congrArg (_ :: ·) ih

theorem ofFields_append (first rest : List (String × Json)) :
    ofFields (first ++ rest) = ofFields first ++ ofFields rest := by
  induction first with
  | nil => rfl
  | cons head first ih =>
    obtain ⟨key, v⟩ := head
    simp only [List.cons_append, ofFields, ih]

/-- What is known of a value that a text writes. -/
theorem ordered_of_value? {d : Document} {v : Json} (h : d.value? = some v) :
    v.Ordered ∧ v.depth ≤ maxDepth := by
  unfold value? at h
  split at h
  · rename_i hdepth
    exact ⟨ordered_of_toJson? h, Nat.le_trans (depth_le_of_toJson? h) hdepth⟩
  · cases h

end Document

end ChainCrawl.Json
