import ChainCrawl.Proofs.Json.Document

namespace ChainCrawl.Json

/-- An object after fields have been set in it, one after the other. -/
def setAll (object fields : List (String × Json)) : List (String × Json) :=
  fields.foldl (fun object (key, value) => insert key value object) object

variable {key other : String} {value : Json} {object fields : List (String × Json)}

@[simp]
theorem setAll_cons (object : List (String × Json)) (key : String) (value : Json)
    (fields : List (String × Json)) :
    setAll object ((key, value) :: fields) = setAll (insert key value object) fields := rfl

theorem insert_cons (key k : String) (value v : Json) (rest : List (String × Json)) :
    insert key value ((k, v) :: rest) =
      if key < k then (key, value) :: (k, v) :: rest
      else if key = k then (key, value) :: rest else (k, v) :: insert key value rest := rfl

theorem Sorted.setAll (h : Sorted object) (fields : List (String × Json)) :
    Sorted (setAll object fields) :=
  sorted_foldl_insert h

@[simp]
theorem lookup_cons (key other : String) (value : Json) (fields : List (String × Json)) :
    lookup other ((key, value) :: fields) =
      if key = other then some value else lookup other fields := by
  by_cases h : key = other <;> simp [lookup, h]

/-- No order of the fields is needed: what is passed over while inserting is passed over while
looking, too. -/
theorem lookup_insert (key other : String) (value : Json) (fields : List (String × Json)) :
    lookup other (insert key value fields) =
      if key = other then some value else lookup other fields := by
  induction fields with
  | nil => exact lookup_cons key other value []
  | cons head rest ih =>
    obtain ⟨k, v⟩ := head
    rw [insert_cons]
    split
    · exact lookup_cons key other value _
    · split
      · rename_i heq
        subst heq
        simp only [lookup_cons]
        split <;> rfl
      · rename_i hne
        rw [lookup_cons, ih, lookup_cons]
        by_cases hk : k = other
        · have hkey : key ≠ other := fun heq => hne (heq.trans hk.symm)
          rw [if_pos hk, if_neg hkey, if_pos hk]
        · simp only [if_neg hk]

theorem lookup_eq_none (h : ∀ field ∈ fields, field.1 ≠ key) : lookup key fields = none := by
  simpa [lookup] using h

theorem Sorted.ne_of_mem {key : String} {value : Json} {rest : List (String × Json)}
    (h : Sorted ((key, value) :: rest)) : ∀ field ∈ rest, field.1 ≠ key := by
  intro field hfield heq
  exact String.lt_irrefl key (heq ▸ (List.pairwise_cons.1 h).1 field hfield)

theorem mem_of_lookup (h : lookup key fields = some value) : (key, value) ∈ fields := by
  obtain ⟨field, hfind, rfl⟩ := Option.map_eq_some_iff.1 h
  obtain rfl : field.1 = key := by simpa using List.find?_some hfind
  exact List.mem_of_find?_eq_some hfind

/-- A field of an object is the only one of its name. -/
theorem Sorted.lookup_of_mem (hfields : Sorted fields) (hmem : (key, value) ∈ fields) :
    lookup key fields = some value := by
  induction fields with
  | nil => cases hmem
  | cons head rest ih =>
    obtain ⟨k, v⟩ := head
    obtain ⟨hhead, hrest⟩ := List.pairwise_cons.1 hfields
    rw [lookup_cons]
    obtain heq | hmem := List.mem_cons.1 hmem
    · cases heq
      exact if_pos rfl
    · have hlt : k < key := hhead _ hmem
      rw [if_neg (String.ne_of_lt hlt)]
      exact ih hrest hmem

theorem Sorted.nodup_names (hfields : Sorted fields) : (fields.map (·.1)).Nodup :=
  List.pairwise_map.2 (hfields.imp fun hlt => String.ne_of_lt hlt)

/-- A field that is set counts, and else the one that was there. -/
theorem lookup_setAll (hfields : Sorted fields) (key : String)
    (object : List (String × Json)) :
    lookup key (setAll object fields) = (lookup key fields).or (lookup key object) := by
  induction fields generalizing object with
  | nil => rfl
  | cons head rest ih =>
    obtain ⟨k, v⟩ := head
    rw [setAll_cons, ih (List.pairwise_cons.1 hfields).2, lookup_insert, lookup_cons]
    by_cases hk : k = key
    · rw [if_pos hk, if_pos hk, lookup_eq_none (hk ▸ hfields.ne_of_mem)]
      rfl
    · rw [if_neg hk, if_neg hk]

theorem insert_insert (key : String) (first value : Json) (fields : List (String × Json)) :
    insert key value (insert key first fields) = insert key value fields := by
  induction fields with
  | nil => simp [insert]
  | cons head rest ih =>
    obtain ⟨k, v⟩ := head
    by_cases hlt : key < k
    · simp [insert, hlt]
    · by_cases heq : key = k
      · subst heq
        simp [insert]
      · simp [insert, hlt, heq, ih]

private theorem insert_comm_of_lt {a b : String} (hab : a < b) (x y : Json)
    (fields : List (String × Json)) :
    insert a x (insert b y fields) = insert b y (insert a x fields) := by
  have hba : ¬ b < a := fun hba => String.lt_irrefl a (String.lt_trans hab hba)
  have hne : b ≠ a := fun heq => String.lt_irrefl a (heq ▸ hab)
  induction fields with
  | nil => simp [insert, hab, hba, hne]
  | cons head rest ih =>
    obtain ⟨k, v⟩ := head
    by_cases hak : a < k
    · by_cases hbk : b < k
      · simp [insert, hak, hbk, hab, hba, hne]
      · by_cases hbk' : b = k
        · subst hbk'
          simp [insert, hab, hba, hne]
        · simp [insert, hak, hbk, hbk', hba, hne]
    · have hbk : ¬ b < k := fun hbk => hak (String.lt_trans hab hbk)
      by_cases hak' : a = k
      · subst hak'
        simp [insert, hba, hne]
      · have hbk' : b ≠ k := fun heq => hak (heq ▸ hab)
        simp [insert, hak, hak', hbk, hbk', ih]

/-- Fields of different names may be set in either order. -/
theorem insert_comm {a b : String} (h : a ≠ b) (x y : Json) (fields : List (String × Json)) :
    insert a x (insert b y fields) = insert b y (insert a x fields) := by
  by_cases hab : a < b
  · exact insert_comm_of_lt hab x y fields
  · have hba : b < a := by
      by_cases hba : b < a
      · exact hba
      · exact absurd (String.le_antisymm (String.not_lt.1 hba) (String.not_lt.1 hab)) h
    exact (insert_comm_of_lt hba y x fields).symm

theorem setAll_insert_of_ne (h : ∀ field ∈ fields, field.1 ≠ key) (value : Json)
    (object : List (String × Json)) :
    setAll (insert key value object) fields = insert key value (setAll object fields) := by
  induction fields generalizing object with
  | nil => rfl
  | cons head rest ih =>
    obtain ⟨k, v⟩ := head
    rw [setAll_cons, insert_comm (h (k, v) List.mem_cons_self),
      ih fun field hfield => h field (List.mem_cons_of_mem _ hfield), setAll_cons]

/-- A field set among those still to be set is set last. -/
theorem setAll_insert (hfields : Sorted fields) (key : String) (value : Json)
    (object : List (String × Json)) :
    setAll object (insert key value fields) = insert key value (setAll object fields) := by
  induction fields generalizing object with
  | nil => rfl
  | cons head rest ih =>
    obtain ⟨k, v⟩ := head
    have hrest : Sorted rest := (List.pairwise_cons.1 hfields).2
    rw [insert_cons]
    split
    · rename_i hlt
      refine setAll_insert_of_ne (fun field hfield heq => ?_) value object
      have hle : field = (k, v) ∨ k < field.1 :=
        (List.mem_cons.1 hfield).imp_right ((List.pairwise_cons.1 hfields).1 field)
      obtain rfl | hk := hle
      · exact String.lt_irrefl key (heq ▸ hlt)
      · exact String.lt_irrefl key (String.lt_trans hlt (heq ▸ hk))
    · split
      · rename_i heq
        subst heq
        rw [setAll_cons, setAll_cons, setAll_insert_of_ne hfields.ne_of_mem,
          setAll_insert_of_ne hfields.ne_of_mem, insert_insert]
      · exact ih hrest _

/-- No premise on the object is needed, nor on the fields that are set last. -/
theorem setAll_setAll (hfields : Sorted fields) (object last : List (String × Json)) :
    setAll object (setAll fields last) = setAll (setAll object fields) last := by
  induction last generalizing fields with
  | nil => rfl
  | cons head rest ih =>
    obtain ⟨k, v⟩ := head
    rw [setAll_cons, ih (hfields.insert k v), setAll_insert hfields, setAll_cons]

theorem insert_of_mem (hfields : Sorted fields) (h : (key, value) ∈ fields) :
    insert key value fields = fields := by
  induction fields with
  | nil => cases h
  | cons head rest ih =>
    obtain ⟨k, v⟩ := head
    obtain ⟨hhead, hrest⟩ := List.pairwise_cons.1 hfields
    obtain heq | hmem := List.mem_cons.1 h
    · cases heq
      simp [insert]
    · have hlt : k < key := hhead _ hmem
      have hnot : ¬ key < k := fun hkey => String.lt_irrefl k (String.lt_trans hlt hkey)
      have hne : key ≠ k := fun heq => String.lt_irrefl k (heq ▸ hlt)
      rw [insert, if_neg hnot, if_neg hne, ih hrest hmem]

/-- Setting the fields of an object again changes nothing. -/
theorem setAll_self (hfields : Sorted fields) : setAll fields fields = fields := by
  have hpart : ∀ part : List (String × Json), part ⊆ fields → setAll fields part = fields := by
    intro part hpart
    induction part with
    | nil => rfl
    | cons head rest ih =>
      obtain ⟨hhead, hrest⟩ := List.cons_subset.1 hpart
      rw [setAll_cons, insert_of_mem hfields hhead, ih hrest]
  exact hpart fields (List.Subset.refl _)

end ChainCrawl.Json
