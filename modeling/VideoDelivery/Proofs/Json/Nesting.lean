import VideoDelivery.Proofs.Json.Reading

/-!
# Nesting

How many containers of a value stand around each other, and that the readers keep to the depth they
are given: nothing they read is nested deeper, and making a value canonical does not nest it deeper.

* `nesting_value` — **a value is nested no deeper than its reader was allowed to go**.
* `canonical_canonical`, `nesting_canonical` — what making a value canonical does to it.
* `moreItems_forall`, `moreFields_invariant` — what the loops over items and fields keep, for any
  readers of these.
-/

namespace VideoDelivery

namespace PropertyMap

theorem mem_insertAll {m : PropertyMap} {fs : List (String × Json)} {e : String × Json}
    (h : e ∈ (m.insertAll fs).entries) : e ∈ m.entries ∨ e ∈ fs := by
  induction fs generalizing m with
  | nil => exact .inl h
  | cons f fs ih =>
    rcases ih h with h | h
    · rcases mem_put h with rfl | h
      · exact .inr (List.mem_cons_self ..)
      · exact .inl h
    · exact .inr (List.mem_cons_of_mem f h)

/-- A map holds nothing but the fields it was built from. -/
theorem mem_ofList {fs : List (String × Json)} {e : String × Json}
    (h : e ∈ (ofList fs).entries) : e ∈ fs :=
  (mem_insertAll h).resolve_left (List.not_mem_nil)

end PropertyMap

namespace Json

/-! ## Nesting -/

mutual

/-- How many containers of the value stand around each other. -/
def nesting : Json → Nat
  | .arr items => nestingItems items + 1
  | .obj fields => nestingFields fields + 1
  | .null | .bool _ | .num _ | .str _ => 0
termination_by structural v => v

def nestingItems : List Json → Nat
  | [] => 0
  | v :: rest => max (nesting v) (nestingItems rest)
termination_by structural vs => vs

def nestingFields : List (String × Json) → Nat
  | [] => 0
  | (_, v) :: rest => max (nesting v) (nestingFields rest)
termination_by structural fs => fs

end

theorem nestingItems_le_iff {vs : List Json} {n : Nat} :
    nestingItems vs ≤ n ↔ ∀ v ∈ vs, nesting v ≤ n := by
  induction vs with
  | nil => simp [nestingItems]
  | cons v vs ih => rw [nestingItems, Nat.max_le, ih, List.forall_mem_cons]

theorem nestingFields_le_iff {fs : List (String × Json)} {n : Nat} :
    nestingFields fs ≤ n ↔ ∀ e ∈ fs, nesting e.2 ≤ n := by
  induction fs with
  | nil => simp [nestingFields]
  | cons e fs ih => rw [nestingFields, Nat.max_le, ih, List.forall_mem_cons]

theorem nesting_arr_le_iff {vs : List Json} {n : Nat} :
    nesting (.arr vs) ≤ n + 1 ↔ ∀ v ∈ vs, nesting v ≤ n := by
  rw [nesting, Nat.add_le_add_iff_right, nestingItems_le_iff]

theorem nesting_obj_le_iff {fs : List (String × Json)} {n : Nat} :
    nesting (.obj fs) ≤ n + 1 ↔ ∀ e ∈ fs, nesting e.2 ≤ n := by
  rw [nesting, Nat.add_le_add_iff_right, nestingFields_le_iff]

theorem nesting_item_le {vs : List Json} {v : Json} (h : v ∈ vs) : nesting v ≤ nestingItems vs :=
  nestingItems_le_iff.mp (Nat.le_refl _) v h

theorem nesting_field_le {fs : List (String × Json)} {e : String × Json} (h : e ∈ fs) :
    nesting e.2 ≤ nestingFields fs :=
  nestingFields_le_iff.mp (Nat.le_refl _) e h

/-! ## Canonical values -/

theorem canonicalItems_iff {vs : List Json} : CanonicalItems vs ↔ ∀ v ∈ vs, Canonical v := by
  induction vs with
  | nil => simp [CanonicalItems]
  | cons v vs ih => simp [CanonicalItems, ih]

theorem canonicalFields_iff {fs : List (String × Json)} :
    CanonicalFields fs ↔ ∀ e ∈ fs, Canonical e.2 := by
  induction fs with
  | nil => simp [CanonicalFields]
  | cons e fs ih => simp [CanonicalFields, ih]

/-- The fields of a map are in key order, so only their values have to be canonical. -/
theorem canonical_map_iff {m : PropertyMap} :
    Canonical m.toJson ↔ ∀ e ∈ m.entries, Canonical e.2 := by
  rw [← canonicalFields_iff]
  exact and_iff_right m.sorted

mutual

/-- What was made canonical is canonical. -/
theorem canonical_canonical : ∀ v : Json, Canonical (canonical v)
  | .arr items => canonicalItems_canonicalItems items
  | .obj fields => by
    refine ⟨(PropertyMap.ofList (canonicalFields fields)).sorted, canonicalFields_iff.mpr ?_⟩
    intro e he
    have hfields := canonicalFields_iff.mp (canonicalFields_canonicalFields fields)
    exact hfields e (PropertyMap.mem_ofList he)
  | .null | .bool _ | .num _ | .str _ => trivial

theorem canonicalItems_canonicalItems : ∀ vs : List Json, CanonicalItems (canonicalItems vs)
  | [] => trivial
  | v :: rest => ⟨canonical_canonical v, canonicalItems_canonicalItems rest⟩

theorem canonicalFields_canonicalFields :
    ∀ fs : List (String × Json), CanonicalFields (canonicalFields fs)
  | [] => trivial
  | (_, v) :: rest => ⟨canonical_canonical v, canonicalFields_canonicalFields rest⟩

end

mutual

/-- Making a value canonical does not nest it deeper. -/
theorem nesting_canonical : ∀ v : Json, nesting (canonical v) ≤ nesting v
  | .arr items => Nat.succ_le_succ (nestingItems_canonicalItems items)
  | .obj fields => by
    rw [canonical, nesting, nesting, Nat.add_le_add_iff_right, nestingFields_le_iff]
    intro e he
    have hfield := nesting_field_le (PropertyMap.mem_ofList he)
    exact Nat.le_trans hfield (nestingFields_canonicalFields fields)
  | .null | .bool _ | .num _ | .str _ => Nat.le_refl 0

theorem nestingItems_canonicalItems :
    ∀ vs : List Json, nestingItems (canonicalItems vs) ≤ nestingItems vs
  | [] => Nat.le_refl 0
  | v :: rest => by
    have hfirst := nesting_canonical v
    have hrest := nestingItems_canonicalItems rest
    simp only [canonicalItems, nestingItems]
    omega

theorem nestingFields_canonicalFields :
    ∀ fs : List (String × Json), nestingFields (canonicalFields fs) ≤ nestingFields fs
  | [] => Nat.le_refl 0
  | (_, v) :: rest => by
    have hfirst := nesting_canonical v
    have hrest := nestingFields_canonicalFields rest
    simp only [canonicalFields, nestingFields]
    omega

end

/-! ## What the loops keep -/

section

variable {α σ : Type}

/-- What every item has by itself, all items of a list have. -/
theorem moreItems_forall {item : Reader α} {P : α → Prop}
    (hitem : ∀ {text : List Char} {r : Read α text}, item text = .ok r → P r.value)
    {text : List Char} {r : Read (List α) text} (h : moreItems item text = .ok r) :
    ∀ a ∈ r.value, P a := by
  -- the loop goes on with what an item left of the text, which is shorter
  induction hlength : text.length using Nat.strongRecOn generalizing text with
  | ind n ih =>
    subst hlength
    rw [moreItems] at h
    obtain ⟨q, hq, h⟩ := bind_eq_ok.mp h
    split at h
    next => cases h
    next c rest hrest =>
      split at h
      next =>
        obtain rfl := Except.ok.inj h
        intro a ha
        rw [List.mem_singleton.mp ha]
        exact hitem hq
      split at h
      next =>
        split at h
        next => cases h
        next =>
          split at h
          next => cases h
          next =>
            obtain ⟨more, hmore, h⟩ := bind_eq_ok.mp h
            obtain rfl := Except.ok.inj h
            intro a ha
            rcases List.mem_cons.mp ha with rfl | ha
            · exact hitem hq
            · exact ih _ (Nat.lt_trans (shorter_of_skipSpace hrest) q.shorter) hmore rfl a ha
      next => cases h

theorem items_forall {item : Reader α} {P : α → Prop}
    (hitem : ∀ {text : List Char} {r : Read α text}, item text = .ok r → P r.value)
    {text : List Char} {r : Read (List α) text} (h : items item text = .ok r) :
    ∀ a ∈ r.value, P a := by
  unfold items at h
  split at h
  next => cases h
  next =>
    split at h
    next =>
      obtain rfl := Except.ok.inj h
      exact fun a ha => absurd ha List.not_mem_nil
    next => exact moreItems_forall hitem h

/-- What every field keeps, all fields of an object keep. -/
theorem moreFields_invariant {field : σ → String → Except Fault (Reader σ)} {I : σ → Prop}
    (hfield : ∀ {s : σ} {key : String} {reader : Reader σ} {text : List Char} {r : Read σ text},
      I s → field s key = .ok reader → reader text = .ok r → I r.value)
    {s : σ} (hs : I s) {text : List Char} {r : Read σ text}
    (h : moreFields field s text = .ok r) : I r.value := by
  -- as for items, but what was read so far goes along
  induction hlength : text.length using Nat.strongRecOn generalizing text s with
  | ind n ih =>
    subst hlength
    rw [moreFields] at h
    obtain ⟨key, hkey, h⟩ := bind_eq_ok.mp h
    obtain ⟨reader, hreader, h⟩ := bind_eq_ok.mp h
    obtain ⟨⟨afterColon, hcolon⟩, -, h⟩ := bind_eq_ok.mp h
    obtain ⟨q, hq, h⟩ := bind_eq_ok.mp h
    have hkept : I q.value := hfield hs hreader hq
    split at h
    next => cases h
    next c rest hrest =>
      split at h
      next =>
        obtain rfl := Except.ok.inj h
        exact hkept
      split at h
      next =>
        split at h
        next => cases h
        next d rest' hrest' =>
          split at h
          next =>
            obtain ⟨more, hmore, h⟩ := bind_eq_ok.mp h
            obtain rfl := Except.ok.inj h
            have hshorter : rest'.length < text.length := by
              have := shorter_of_skipSpace hrest
              have := shorter_of_skipSpace hrest'
              have := q.shorter
              have := key.shorter
              omega
            have hmore := ih _ hshorter hkept hmore rfl
            exact hmore
          next => split at h <;> cases h
      next => cases h

theorem fields_invariant {field : σ → String → Except Fault (Reader σ)} {I : σ → Prop}
    (hfield : ∀ {s : σ} {key : String} {reader : Reader σ} {text : List Char} {r : Read σ text},
      I s → field s key = .ok reader → reader text = .ok r → I r.value)
    {s : σ} (hs : I s) {text : List Char} {r : Read σ text}
    (h : fields field s text = .ok r) : I r.value := by
  -- an object ends at once, or its first field is there
  unfold fields at h
  split at h
  next => cases h
  next =>
    split at h
    next =>
      obtain rfl := Except.ok.inj h
      exact hs
    next =>
      split at h
      next =>
        obtain ⟨q, hq, h⟩ := bind_eq_ok.mp h
        obtain rfl := Except.ok.inj h
        have hmore := moreFields_invariant hfield hs hq
        exact hmore
      next => cases h

end

/-! ## Values that were read -/

/-- What every value that is read has, the values of all fields of an object have. -/
theorem valueFields_forall {depth : Nat} {P : Json → Prop}
    (hvalue : ∀ {text : List Char} {r : Read Json text}, value depth text = .ok r → P r.value)
    {text : List Char} {r : Read (List (String × Json)) text}
    (h : fields (valueField depth) [] text = .ok r) : ∀ e ∈ r.value, P e.2 := by
  refine fields_invariant (I := fun fs => ∀ e ∈ fs, P e.2) ?_
    (fun e he => absurd he List.not_mem_nil) h
  intro fs key reader text r hfs hreader hr
  obtain rfl := Except.ok.inj hreader
  obtain ⟨v, hv, hr⟩ := bind_eq_ok.mp hr
  obtain rfl := Except.ok.inj hr
  exact List.forall_mem_append.mpr ⟨hfs, List.forall_mem_singleton.mpr (hvalue hv)⟩

theorem nesting_scalar {text : List Char} {r : Read Json text} (h : scalar text = .ok r) :
    nesting r.value = 0 := by
  cases text with
  | nil => cases h
  | cons c rest =>
    unfold scalar at h
    dsimp only at h
    repeat' split at h
    all_goals first
      | cases h
      | obtain ⟨q, -, hr⟩ := bind_eq_ok.mp h
        obtain rfl := Except.ok.inj hr
        rfl

/-- A value is nested no deeper than its reader was allowed to go. -/
theorem nesting_value {depth : Nat} {text : List Char} {r : Read Json text}
    (h : value depth text = .ok r) : nesting r.value ≤ depth := by
  induction depth using Nat.strongRecOn generalizing text with
  | ind depth ih =>
    rcases value_cases h with ⟨c, rest, -, q, hq, hvalue, -⟩ |
      ⟨inner, rest, q, rfl, -, hq, hvalue⟩ | ⟨inner, rest, q, rfl, -, hq, hvalue⟩
    · -- only containers use up depth
      rw [← hvalue, nesting_scalar hq]
      exact Nat.zero_le depth
    · rw [hvalue, nesting_arr_le_iff]
      exact items_forall (fun hv => ih inner (Nat.lt_succ_self inner) hv) hq
    · rw [hvalue, nesting_obj_le_iff]
      exact valueFields_forall (P := fun v => nesting v ≤ inner)
        (fun hv => ih inner (Nat.lt_succ_self inner) hv) hq

end Json

end VideoDelivery
