import VideoDelivery.Json.Basic

/-!
# Property maps

A property map gives names their values. Its entries stand in the order of their names, compared
code point by code point, and each name has one entry; so two maps with the same values are equal
(`PropertyMap.ext_get?`), and a walk through a map does not depend on how it was built.

Main results, each an operation seen through `get?`:

* `get?_insert`, `get?_insertNew`, `get?_insertAs`, `get?_erase` — what an operation does to each
  name.
* `mem_entries_iff` — the entries are the pairs that `get?` gives.
* `ofList_entries` — building a map from its own entries gives it back.
-/

namespace VideoDelivery

/-- Fields in the order of their names, each name once. -/
abbrev InKeyOrder (fields : List (String × Json)) : Prop :=
  fields.Pairwise fun a b => a.1 < b.1

/-- Names with their values. -/
structure PropertyMap where
  entries : List (String × Json)
  sorted : InKeyOrder entries

theorem lt_of_not_lt_of_ne {a b : String} (h : ¬ a < b) (ne : a ≠ b) : b < a := by
  rcases Classical.em (b < a) with lt | nlt
  · exact lt
  · exact absurd (String.le_antisymm (String.not_lt.1 nlt) (String.not_lt.1 h)) ne

namespace PropertyMap

instance : BEq PropertyMap := ⟨fun a b => Json.sameFields a.entries b.entries⟩

instance : ReflBEq PropertyMap := ⟨Json.sameFields_refl _⟩

theorem ext_entries {a b : PropertyMap} (h : a.entries = b.entries) : a = b := by
  cases a
  cases b
  cases h
  rfl

/-! ## Entries in key order -/

theorem lookup_field (l : String) (v : Json) (rest : List (String × Json)) (k : String) :
    ((l, v) :: rest).lookup k = if k = l then some v else rest.lookup k := by
  rw [List.lookup_cons]
  by_cases h : k = l
  · simp [h]
  · simp [beq_false_of_ne h, h]

/-- The fields with `name` set to `value`, at the place of `name` in key order. -/
def put (name : String) (value : Json) : List (String × Json) → List (String × Json)
  | [] => [(name, value)]
  | (k, v) :: rest =>
    if name < k then (name, value) :: (k, v) :: rest
    else if name = k then (name, value) :: rest
    else (k, v) :: put name value rest

theorem mem_put {name : String} {value : Json} {fields : List (String × Json)}
    {e : String × Json} (h : e ∈ put name value fields) : e = (name, value) ∨ e ∈ fields := by
  induction fields with
  | nil => exact .inl (by simpa [put] using h)
  | cons f rest ih =>
    obtain ⟨k, v⟩ := f
    simp only [put] at h
    split at h
    · simpa using h
    · split at h
      · rcases List.mem_cons.1 h with rfl | h
        · exact .inl rfl
        · exact .inr (List.mem_cons_of_mem _ h)
      · rcases List.mem_cons.1 h with rfl | h
        · exact .inr (List.mem_cons_self ..)
        · exact (ih h).imp id (List.mem_cons_of_mem _)

theorem put_sorted {name : String} {value : Json} {fields : List (String × Json)}
    (h : InKeyOrder fields) : InKeyOrder (put name value fields) := by
  induction fields with
  | nil => simp [put, InKeyOrder]
  | cons f rest ih =>
    obtain ⟨k, v⟩ := f
    obtain ⟨first, later⟩ := List.pairwise_cons.1 h
    simp only [put]
    split
    next lt =>
      refine List.pairwise_cons.2 ⟨fun e he => ?_, h⟩
      rcases List.mem_cons.1 he with rfl | he
      · exact lt
      · exact String.lt_trans lt (first e he)
    next nlt =>
      split
      next eq =>
        subst eq
        exact List.pairwise_cons.2 ⟨first, later⟩
      next ne =>
        refine List.pairwise_cons.2 ⟨fun e he => ?_, ih later⟩
        rcases mem_put he with rfl | he
        · exact lt_of_not_lt_of_ne nlt ne
        · exact first e he

theorem lookup_put (name : String) (value : Json) (fields : List (String × Json)) (k : String)
    (h : InKeyOrder fields) :
    (put name value fields).lookup k = if k = name then some value else fields.lookup k := by
  induction fields with
  | nil => by_cases hk : k = name <;> simp [put, lookup_field, hk]
  | cons f rest ih =>
    obtain ⟨l, v⟩ := f
    obtain ⟨_, later⟩ := List.pairwise_cons.1 h
    simp only [put]
    split
    · by_cases hk : k = name <;> simp [lookup_field, hk]
    · split
      next eq =>
        subst eq
        by_cases hk : k = name <;> simp [lookup_field, hk]
      next ne =>
        rw [lookup_field, ih later, lookup_field]
        by_cases hl : k = l
        · subst hl
          have : k ≠ name := fun e => ne e.symm
          simp [this]
        · simp [hl]

theorem put_above {name : String} {value : Json} {fields : List (String × Json)}
    (h : ∀ e ∈ fields, e.1 < name) : put name value fields = fields ++ [(name, value)] := by
  induction fields with
  | nil => rfl
  | cons f rest ih =>
    obtain ⟨k, v⟩ := f
    have below : k < name := h (k, v) (List.mem_cons_self ..)
    have nlt : ¬ name < k := fun lt => String.lt_irrefl _ (String.lt_trans lt below)
    have ne : name ≠ k := by
      rintro rfl
      exact String.lt_irrefl _ below
    simp [put, nlt, ne, ih fun e he => h e (List.mem_cons_of_mem _ he)]

/-! ## Operations -/

def empty : PropertyMap := ⟨[], .nil⟩

instance : Inhabited PropertyMap := ⟨empty⟩

def isEmpty (m : PropertyMap) : Bool := m.entries.isEmpty

/-- How many names have a value. -/
def size (m : PropertyMap) : Nat := m.entries.length

/-- The names that have a value, in their order. -/
def keys (m : PropertyMap) : List String := m.entries.map (·.1)

/-- The value of a name. -/
def get? (m : PropertyMap) (name : String) : Option Json := m.entries.lookup name

/-- The map with `name` set to `value`. -/
def insert (m : PropertyMap) (name : String) (value : Json) : PropertyMap :=
  ⟨put name value m.entries, put_sorted m.sorted⟩

/-- The map with `name` set to `value` unless it has a value already. -/
def insertNew (m : PropertyMap) (name : String) (value : Json) : PropertyMap :=
  if (m.get? name).isSome then m else m.insert name value

/-- The map with the property `canonical` set to a value given under some spelling of it. The
canonical spelling counts, and the last one given so; among other spellings the first one. -/
def insertAs (m : PropertyMap) (canonical given : String) (value : Json) : PropertyMap :=
  if given = canonical then m.insert canonical value else m.insertNew canonical value

/-- The map without `name`. -/
def erase (m : PropertyMap) (name : String) : PropertyMap :=
  ⟨m.entries.filter fun e => e.1 ≠ name, m.sorted.filter _⟩

/-- `m` with every entry of `fields` set in turn; of two with one name the later one counts. -/
def insertAll (m : PropertyMap) (fields : List (String × Json)) : PropertyMap :=
  fields.foldl (fun acc e => acc.insert e.1 e.2) m

/-- The map of some fields; of two with one name the later one counts. -/
def ofList (fields : List (String × Json)) : PropertyMap := empty.insertAll fields

/-- The values of `own`, and those of `inherited` for names that `own` does not have. -/
def overlay (inherited own : PropertyMap) : PropertyMap := inherited.insertAll own.entries

/-- The map as an object. -/
def toJson (m : PropertyMap) : Json := .obj m.entries

/-! ## What each operation does to each name -/

@[simp] theorem get?_empty (k : String) : empty.get? k = none := rfl

@[simp] theorem get?_insert (m : PropertyMap) (name : String) (value : Json) (k : String) :
    (m.insert name value).get? k = if k = name then some value else m.get? k :=
  lookup_put name value m.entries k m.sorted

theorem mem_insertAs {m : PropertyMap} {canonical given : String} {value : Json}
    {e : String × Json} (h : e ∈ (m.insertAs canonical given value).entries) :
    e = (canonical, value) ∨ e ∈ m.entries := by
  unfold insertAs insertNew at h
  split at h
  · exact mem_put h
  · split at h
    · exact .inr h
    · exact mem_put h

theorem get?_insertNew (m : PropertyMap) (name : String) (value : Json) (k : String) :
    (m.insertNew name value).get? k =
      if k = name then some ((m.get? name).getD value) else m.get? k := by
  unfold insertNew
  cases h : m.get? name with
  | none => simp
  | some v =>
    by_cases hk : k = name
    · subst hk
      simp [h]
    · simp [hk]

theorem lookup_filter_ne (name k : String) (fields : List (String × Json)) :
    (fields.filter fun e => e.1 ≠ name).lookup k = if k = name then none else fields.lookup k := by
  induction fields with
  | nil => simp
  | cons e rest ih =>
    obtain ⟨l, v⟩ := e
    rw [List.filter_cons, lookup_field]
    by_cases hl : l = name
    · subst hl
      rw [if_neg (by simp), ih]
      by_cases hk : k = l <;> simp [hk]
    · rw [if_pos (by simpa using hl), lookup_field, ih]
      by_cases hk : k = l
      · subst hk
        simp [hl]
      · simp [hk]

theorem get?_insertAs (m : PropertyMap) (canonical given : String) (value : Json) (k : String) :
    (m.insertAs canonical given value).get? k =
      if k = canonical then
        if given = canonical then some value else some ((m.get? canonical).getD value)
      else m.get? k := by
  unfold insertAs
  by_cases h : given = canonical
  · simp [h]
  · simp [h, get?_insertNew]

@[simp] theorem get?_erase (m : PropertyMap) (name k : String) :
    (m.erase name).get? k = if k = name then none else m.get? k :=
  lookup_filter_ne name k m.entries

theorem lookup_eq_some_iff {fields : List (String × Json)} (h : InKeyOrder fields) (k : String)
    (v : Json) : fields.lookup k = some v ↔ (k, v) ∈ fields := by
  induction fields with
  | nil => simp
  | cons e rest ih =>
    obtain ⟨l, w⟩ := e
    obtain ⟨first, later⟩ := List.pairwise_cons.1 h
    rw [lookup_field]
    by_cases hk : k = l
    · subst hk
      have absent : (k, v) ∉ rest := fun hm => String.lt_irrefl k (first (k, v) hm)
      simp [absent, eq_comm]
    · simp [hk, ih later]

theorem mem_entries_iff (m : PropertyMap) (k : String) (v : Json) :
    (k, v) ∈ m.entries ↔ m.get? k = some v :=
  (lookup_eq_some_iff m.sorted k v).symm

theorem eq_of_mem_iff {xs ys : List (String × Json)} (hx : InKeyOrder xs) (hy : InKeyOrder ys)
    (h : ∀ e, e ∈ xs ↔ e ∈ ys) : xs = ys := by
  induction xs generalizing ys with
  | nil =>
    cases ys with
    | nil => rfl
    | cons e rest => exact absurd ((h e).2 (List.mem_cons_self ..)) (by simp)
  | cons e rest ih =>
    cases ys with
    | nil => exact absurd ((h e).1 (List.mem_cons_self ..)) (by simp)
    | cons f rest' =>
      obtain ⟨he, hrest⟩ := List.pairwise_cons.1 hx
      obtain ⟨hf, hrest'⟩ := List.pairwise_cons.1 hy
      have heads : e = f := by
        rcases List.mem_cons.1 ((h e).1 (List.mem_cons_self ..)) with eq | mem
        · exact eq
        · rcases List.mem_cons.1 ((h f).2 (List.mem_cons_self ..)) with eq | mem'
          · exact eq.symm
          · exact absurd (String.lt_trans (he f mem') (hf e mem)) (String.lt_irrefl _)
      subst heads
      congr 1
      refine ih hrest hrest' fun g => ⟨fun hg => ?_, fun hg => ?_⟩
      · rcases List.mem_cons.1 ((h g).1 (List.mem_cons_of_mem _ hg)) with rfl | mem
        · exact absurd (he g hg) (String.lt_irrefl _)
        · exact mem
      · rcases List.mem_cons.1 ((h g).2 (List.mem_cons_of_mem _ hg)) with rfl | mem
        · exact absurd (hf g hg) (String.lt_irrefl _)
        · exact mem

/-- Maps that give every name the same value are equal. -/
theorem ext_get? {a b : PropertyMap} (h : ∀ k, a.get? k = b.get? k) : a = b := by
  refine ext_entries (eq_of_mem_iff a.sorted b.sorted fun e => ?_)
  obtain ⟨k, v⟩ := e
  rw [mem_entries_iff, mem_entries_iff, h]

theorem insertAll_above (m : PropertyMap) (fields : List (String × Json))
    (h : InKeyOrder (m.entries ++ fields)) :
    (m.insertAll fields).entries = m.entries ++ fields := by
  induction fields generalizing m with
  | nil => simp [insertAll]
  | cons e rest ih =>
    have below : ∀ f ∈ m.entries, f.1 < e.1 := fun f hf =>
      (List.pairwise_append.1 h).2.2 f hf e (List.mem_cons_self ..)
    have step : (m.insert e.1 e.2).entries = m.entries ++ [e] := put_above below
    have := ih (m.insert e.1 e.2) (by rw [step]; simpa using h)
    rw [step] at this
    simpa [insertAll] using this

/-- Building a map from fields that stand in key order keeps them. -/
theorem entries_ofList {fields : List (String × Json)} (h : InKeyOrder fields) :
    (ofList fields).entries = fields := insertAll_above empty fields h

@[simp] theorem ofList_entries (m : PropertyMap) : ofList m.entries = m :=
  ext_entries (entries_ofList m.sorted)

end PropertyMap

end VideoDelivery
