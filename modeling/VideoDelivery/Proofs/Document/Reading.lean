import VideoDelivery.Document.Reader
import VideoDelivery.Proofs.Json.Nesting

/-!
# Documents as they are read

Whatever form a document was written in, what was read from it has one form: its values are
canonical, none of them is nested so deep that the document would not fit into the limit again, and
the children are not among the attributes.

* `Child.within_of_ofWritten` — descriptors only keep what their text held.
* `Document.asRead_of_ofText` — **every document that was read has this form**.
-/

namespace VideoDelivery

open Json (Reader Read Fault nesting nestingItems nestingFields maxDepth skipSpace)

/-! ## Forms of what was read -/

/-- The values of the map are canonical and nested up to `depth`. -/
def PropertyMap.Within (depth : Nat) (m : PropertyMap) : Prop :=
  ∀ e ∈ m.entries, Json.Canonical e.2 ∧ nesting e.2 ≤ depth

/-- The values in all steps of the child are canonical, and the child is nested up to `depth`. -/
def Child.Within (depth : Nat) (c : Child) : Prop :=
  (∀ s ∈ c.steps, Json.Canonical s.toJson) ∧ nesting c.toJson ≤ depth

/-- The form of properties that were read as part of a document. -/
structure Props.AsRead (p : Props) : Prop where
  noChildren : p.attributes.get? "children" = none
  attributes : p.attributes.Within (maxDepth - 2)
  children : ∀ c ∈ p.children, c.Within (maxDepth - 3)

/-- The form of a document that was read. -/
structure Document.AsRead (d : Document) : Prop where
  layers : ∀ m ∈ d.layers, m.Within (maxDepth - 3)
  props : d.props.AsRead

theorem PropertyMap.Within.canonical {depth : Nat} {m : PropertyMap} (h : m.Within depth) :
    Json.Canonical m.toJson :=
  Json.canonical_map_iff.mpr fun e he => (h e he).1

theorem Child.Within.mono {m n : Nat} {c : Child} (h : c.Within m) (hle : m ≤ n) : c.Within n :=
  ⟨h.1, Nat.le_trans h.2 hle⟩

/-! ## Steps -/

namespace Step

/-- The values of a step are values of the fields it was made from. -/
theorem mem_insertAll {s : Step} {fields : List (String × Json)} {e : String × Json}
    (h : e ∈ (s.insertAll fields).entries) : e ∈ s.entries ∨ ∃ f ∈ fields, f.2 = e.2 := by
  induction fields generalizing s with
  | nil => exact .inl h
  | cons f rest ih =>
    rcases ih h with h | ⟨g, hg, heq⟩
    · replace h : e ∈ (s.insert f.1 f.2).entries := h
      -- a field that names no parameter is dropped
      cases hname : Parameter.canonicalName? f.1 with
      | none =>
        rw [insert_of_unknown s f.2 hname] at h
        exact .inl h
      | some c =>
        unfold entries at h
        rw [params_insert s f.2 hname] at h
        rcases PropertyMap.mem_insertAs h with rfl | h
        · exact .inr ⟨f, List.mem_cons_self .., rfl⟩
        · exact .inl h
    · exact .inr ⟨g, List.mem_cons_of_mem f hg, heq⟩

/-- What every field has, every parameter of the step has. -/
theorem forall_ofFields {P : Json → Prop} {fields : List (String × Json)}
    (h : ∀ f ∈ fields, P f.2) : ∀ e ∈ (ofFields fields).entries, P e.2 := by
  intro e he
  rcases mem_insertAll he with he | ⟨f, hf, heq⟩
  · exact absurd he List.not_mem_nil
  · rw [← heq]
    exact h f (PropertyMap.mem_ofList hf)

end Step

/-! ## Children -/

namespace Child

theorem stepOfJson?_eq_some {v : Json} {s : Step} (h : stepOfJson? v = some s) :
    ∃ fields, v = .obj fields ∧ s = Step.ofFields fields := by
  cases v with
  | obj fields => exact ⟨fields, rfl, (Option.some.inj h).symm⟩
  | _ => cases h

theorem canonical_stepOfJson? {v : Json} {s : Step} (h : stepOfJson? v = some s)
    (hv : Json.Canonical v) : Json.Canonical s.toJson := by
  obtain ⟨fields, rfl, rfl⟩ := stepOfJson?_eq_some h
  refine Json.canonical_map_iff.mpr ?_
  exact Step.forall_ofFields (Json.canonicalFields_iff.mp hv.2)

theorem nesting_stepOfJson? {v : Json} {s : Step} (h : stepOfJson? v = some s) :
    nesting s.toJson ≤ nesting v := by
  obtain ⟨fields, rfl, rfl⟩ := stepOfJson?_eq_some h
  refine Json.nesting_obj_le_iff.mpr ?_
  exact Step.forall_ofFields (P := fun v => nesting v ≤ nestingFields fields)
    fun f hf => Json.nesting_field_le hf

theorem mem_allSteps {cs : List Child} {s : Step} : s ∈ allSteps cs ↔ ∃ c ∈ cs, s ∈ c.steps := by
  induction cs with
  | nil => simp [allSteps]
  | cons c cs ih => simp [allSteps, ih]

theorem allToJson_eq_map (cs : List Child) : allToJson cs = cs.map toJson := by
  induction cs with
  | nil => rfl
  | cons c cs ih => rw [allToJson, ih, List.map_cons]

/-- A descriptor stands in one container around its step, and in two around each child. -/
theorem within_descriptor {step : Step} {cs : List Child} {n : Nat}
    (hcanonical : Json.Canonical step.toJson) (hstep : nesting step.toJson ≤ n)
    (hcs : ∀ c ∈ cs, ∃ k < n, c.Within k) : (descriptor step cs).Within (n + 1) := by
  constructor
  · intro s hs
    rcases List.mem_cons.mp hs with rfl | hs
    · exact hcanonical
    · obtain ⟨c, hc, hs⟩ := mem_allSteps.mp hs
      obtain ⟨k, -, hc⟩ := hcs c hc
      exact hc.1 s hs
  · cases cs with
    | nil =>
      rw [toJson, Json.nesting_obj_le_iff, List.forall_mem_singleton]
      exact hstep
    | cons c cs =>
      rw [toJson, Json.nesting_obj_le_iff, List.forall_mem_cons, List.forall_mem_singleton]
      refine ⟨hstep, ?_⟩
      cases n with
      | zero =>
        obtain ⟨k, hk, -⟩ := hcs c (List.mem_cons_self ..)
        exact absurd hk (Nat.not_lt_zero k)
      | succ n =>
        -- the list of the children is one container, so each of them may be `n` deep
        rw [allToJson_eq_map, Json.nesting_arr_le_iff]
        intro v hv
        obtain ⟨d, hd, rfl⟩ := List.mem_map.mp hv
        obtain ⟨k, hk, hd⟩ := hcs d hd
        exact Nat.le_trans hd.2 (Nat.le_of_lt_succ hk)

theorem ofFields_transformation {v : Json} {rest : List (String × Json)}
    {p : Option Step × Option (List Child)} :
    ofFields (("transformation", v) :: rest) = some p ↔
      ∃ s cs, stepOfJson? v = some s ∧ ofFields rest = some (none, cs) ∧ p = (some s, cs) := by
  rw [ofFields, if_pos rfl]
  constructor
  · intro h
    obtain ⟨s, hs, h⟩ := Option.bind_eq_some_iff.mp h
    obtain ⟨⟨step?, cs⟩, hrest, h⟩ := Option.bind_eq_some_iff.mp h
    cases step? with
    -- a second transformation is refused
    | some _ => cases h
    | none => exact ⟨s, cs, hs, hrest, (Option.some.inj h).symm⟩
  · rintro ⟨s, cs, hs, hrest, rfl⟩
    rw [hs, hrest]
    rfl

/-- The children that a value lists. -/
def childrenOf? : Json → Option (List Child)
  | .arr items => allOfJson items
  | _ => none

theorem ofFields_children {v : Json} {rest : List (String × Json)}
    {p : Option Step × Option (List Child)} :
    ofFields (("children", v) :: rest) = some p ↔
      ∃ cs step?, childrenOf? v = some cs ∧ ofFields rest = some (step?, none) ∧
        p = (step?, some cs) := by
  rw [ofFields, if_neg (by decide), if_pos rfl]
  constructor
  · intro h
    cases v with
    | arr items =>
      obtain ⟨cs, hcs, h⟩ := Option.bind_eq_some_iff.mp h
      obtain ⟨⟨step?, children⟩, hrest, h⟩ := Option.bind_eq_some_iff.mp h
      cases children with
      -- so is a second list of children
      | some _ => cases h
      | none => exact ⟨cs, step?, hcs, hrest, (Option.some.inj h).symm⟩
    | _ => cases h
  · rintro ⟨cs, step?, hcs, hrest, rfl⟩
    cases v with
    | arr items =>
      dsimp only
      rw [show allOfJson items = some cs from hcs, hrest]
      rfl
    | _ => cases hcs

theorem ofJson_pair {w v : Json} {c : Child} (h : ofJson (.arr [w, v]) = some c) :
    ∃ s cs, stepOfJson? w = some s ∧ childrenOf? v = some cs ∧ c = .descriptor s cs := by
  cases v with
  | arr items =>
    rw [ofJson] at h
    obtain ⟨s, hs, h⟩ := Option.bind_eq_some_iff.mp h
    obtain ⟨cs, hcs, h⟩ := Option.bind_eq_some_iff.mp h
    exact ⟨s, cs, hs, hcs, (Option.some.inj h).symm⟩
  | _ => cases h

theorem ofJson_longer_ne_some {u v w : Json} {rest : List Json} {c : Child} :
    ofJson (.arr (u :: v :: w :: rest)) ≠ some c := by
  cases v <;> nofun

/-- What the step and the children that fields name are like, if the fields are `n` deep. -/
def FieldsWithin (n : Nat) (step? : Option Step) (children : Option (List Child)) : Prop :=
  (∀ s ∈ step?, Json.Canonical s.toJson ∧ nesting s.toJson ≤ n) ∧
    ∀ cs ∈ children, ∀ c ∈ cs, ∃ k < n, c.Within k

theorem FieldsWithin.mono {m n : Nat} {step? : Option Step} {children : Option (List Child)}
    (h : FieldsWithin m step? children) (hle : m ≤ n) : FieldsWithin n step? children := by
  constructor
  · intro s hs
    exact ⟨(h.1 s hs).1, Nat.le_trans (h.1 s hs).2 hle⟩
  · intro cs hcs c hc
    obtain ⟨k, hk, hc⟩ := h.2 cs hcs c hc
    exact ⟨k, Nat.lt_of_lt_of_le hk hle, hc⟩

mutual

/-- A child that was made from a canonical value holds canonical values, and is nested no deeper. -/
theorem within_of_ofJson : ∀ (v : Json) {c : Child}, Json.Canonical v → ofJson v = some c →
    c.Within (nesting v)
  | .str t, c, _, h => by
    obtain rfl := Option.some.inj h
    exact ⟨fun s hs => absurd hs List.not_mem_nil, Nat.le_refl 0⟩
  | .obj fields, c, hv, h => by
    rw [ofJson] at h
    obtain ⟨⟨step?, children⟩, hfields, h⟩ := Option.bind_eq_some_iff.mp h
    -- without a step there is no descriptor
    obtain ⟨step, rfl, h⟩ := Option.bind_eq_some_iff.mp h
    obtain rfl := Option.some.inj h
    obtain ⟨hstep, hchildren⟩ := within_of_ofFields fields hv.2 hfields
    refine within_descriptor (hstep step rfl).1 (hstep step rfl).2 ?_
    cases children with
    | none => exact fun c hc => absurd hc List.not_mem_nil
    | some cs => exact hchildren cs rfl
  | .arr [w], c, hv, h => by
    rw [ofJson] at h
    obtain ⟨s, hs, h⟩ := Option.bind_eq_some_iff.mp h
    obtain rfl := Option.some.inj h
    have hstep : nesting w ≤ nestingItems [w] := Json.nesting_item_le (List.mem_cons_self ..)
    exact within_descriptor (canonical_stepOfJson? hs hv.1)
      (Nat.le_trans (nesting_stepOfJson? hs) hstep) fun c hc => absurd hc List.not_mem_nil
  | .arr [w, v], c, hv, h => by
    obtain ⟨s, cs, hs, hcs, rfl⟩ := ofJson_pair h
    have hstep : nesting w ≤ nestingItems [w, v] := Json.nesting_item_le (List.mem_cons_self ..)
    have hlist : nesting v ≤ nestingItems [w, v] :=
      Json.nesting_item_le (List.mem_cons_of_mem _ (List.mem_singleton_self _))
    refine within_descriptor (canonical_stepOfJson? hs hv.1)
      (Nat.le_trans (nesting_stepOfJson? hs) hstep) ?_
    intro c hc
    obtain ⟨k, hk, hc⟩ := within_of_childrenOf? v hv.2.1 hcs c hc
    exact ⟨k, Nat.lt_of_lt_of_le hk hlist, hc⟩
  -- nothing else is a child
  | .arr [], _, _, h => by cases h
  | .arr (_ :: _ :: _ :: _), _, _, h => absurd h ofJson_longer_ne_some
  | .null, _, _, h => by cases h
  | .bool _, _, _, h => by cases h
  | .num _, _, _, h => by cases h

theorem within_of_childrenOf? : ∀ (v : Json) {cs : List Child}, Json.Canonical v →
    childrenOf? v = some cs → ∀ c ∈ cs, ∃ k < nesting v, c.Within k
  | .arr items, cs, hv, h => fun c hc =>
    ⟨nestingItems items, Nat.lt_succ_self _, within_of_allOfJson items hv h c hc⟩
  | .str _, _, _, h => by cases h
  | .obj _, _, _, h => by cases h
  | .null, _, _, h => by cases h
  | .bool _, _, _, h => by cases h
  | .num _, _, _, h => by cases h

theorem within_of_ofFields : ∀ (fields : List (String × Json)) {step? : Option Step}
    {children : Option (List Child)}, Json.CanonicalFields fields →
    ofFields fields = some (step?, children) → FieldsWithin (nestingFields fields) step? children
  | [], _, _, _, h => by
    obtain ⟨rfl, rfl⟩ := Prod.mk.inj (Option.some.inj h)
    exact ⟨nofun, nofun⟩
  | (key, v) :: rest, step?, children, hv, h => by
    have hmax : nestingFields rest ≤ nestingFields ((key, v) :: rest) := Nat.le_max_right _ _
    -- of the three kinds of fields each of the first two is there at most once
    by_cases htransformation : key = "transformation"
    · subst htransformation
      obtain ⟨s, cs, hs, hrest, hp⟩ := ofFields_transformation.mp h
      obtain ⟨rfl, rfl⟩ := Prod.mk.inj hp
      obtain ⟨-, hchildren⟩ := (within_of_ofFields rest hv.2 hrest).mono hmax
      refine ⟨?_, hchildren⟩
      intro s' hs'
      obtain rfl := Option.some.inj hs'
      exact ⟨canonical_stepOfJson? hs hv.1,
        Nat.le_trans (nesting_stepOfJson? hs) (Nat.le_max_left _ _)⟩
    by_cases hkey : key = "children"
    · subst hkey
      obtain ⟨cs, s, hcs, hrest, hp⟩ := ofFields_children.mp h
      obtain ⟨rfl, rfl⟩ := Prod.mk.inj hp
      obtain ⟨hstep, -⟩ := (within_of_ofFields rest hv.2 hrest).mono hmax
      refine ⟨hstep, ?_⟩
      intro cs' hcs' c hc
      obtain rfl := Option.some.inj hcs'
      obtain ⟨k, hk, hc⟩ := within_of_childrenOf? v hv.1 hcs c hc
      exact ⟨k, Nat.lt_of_lt_of_le hk (Nat.le_max_left _ _), hc⟩
    · -- any other field is passed over
      rw [ofFields, if_neg htransformation, if_neg hkey] at h
      exact (within_of_ofFields rest hv.2 h).mono hmax

theorem within_of_allOfJson : ∀ (vs : List Json) {cs : List Child}, Json.CanonicalItems vs →
    allOfJson vs = some cs → ∀ c ∈ cs, c.Within (nestingItems vs)
  | [], cs, _, h => by
    obtain rfl := Option.some.inj h
    exact fun c hc => absurd hc List.not_mem_nil
  | v :: rest, cs, hv, h => by
    rw [allOfJson] at h
    obtain ⟨d, hd, h⟩ := Option.bind_eq_some_iff.mp h
    obtain ⟨ds, hds, h⟩ := Option.bind_eq_some_iff.mp h
    obtain rfl := Option.some.inj h
    intro c hc
    rcases List.mem_cons.mp hc with rfl | hc
    · exact (within_of_ofJson v hv.1 hd).mono (Nat.le_max_left _ _)
    · exact (within_of_allOfJson rest hv.2 hds c hc).mono (Nat.le_max_right _ _)

end

/-- Descriptors keep nothing but what their text held, with the values made canonical. -/
theorem within_of_ofWritten {v : Json} {c : Child} (h : ofWritten v = some c) :
    c.Within (nesting v) := by
  obtain ⟨_, -, h⟩ := Option.bind_eq_some_iff.mp h
  exact (within_of_ofJson v.canonical (Json.canonical_canonical v) h).mono
    (Json.nesting_canonical v)

end Child

/-! ## Readers -/

namespace Document

theorem mapOfWritten_within {depth : Nat} {written : List (String × Json)}
    (h : ∀ e ∈ written, nesting e.2 ≤ depth) : (mapOfWritten written).Within depth := by
  intro e he
  have hmem := PropertyMap.mem_ofList he
  refine ⟨Json.canonicalFields_iff.mp (Json.canonicalFields_canonicalFields written) e hmem, ?_⟩
  exact Nat.le_trans (Json.nesting_field_le hmem) (Nat.le_trans
    (Json.nestingFields_canonicalFields written) (Json.nestingFields_le_iff.mpr h))

theorem key_of_mapOfWritten {written : List (String × Json)} {e : String × Json}
    (h : e ∈ (mapOfWritten written).entries) : ∃ f ∈ written, f.1 = e.1 := by
  have hmem := PropertyMap.mem_ofList h
  clear h
  -- only the values are made canonical, so a key is one of those that were written
  induction written with
  | nil => exact absurd hmem List.not_mem_nil
  | cons f rest ih =>
    rcases List.mem_cons.mp hmem with rfl | hmem
    · exact ⟨f, List.mem_cons_self .., rfl⟩
    · obtain ⟨g, hg, heq⟩ := ih hmem
      exact ⟨g, List.mem_cons_of_mem f hg, heq⟩

section

variable {α : Type} {P : α → Prop} {text : List Char}

/-- What the body of an object gives, the whole object gives. -/
theorem inBraces_forall {wanted : Json.Shape} {body : Reader α}
    (hbody : ∀ {text : List Char} {r : Read α text}, body text = .ok r → P r.value)
    {r : Read α text} (h : inBraces wanted body text = .ok r) : P r.value := by
  unfold inBraces at h
  split at h
  next => cases h
  next =>
    split at h
    next =>
      obtain ⟨q, hq, h⟩ := bind_eq_ok.mp h
      obtain rfl := Except.ok.inj h
      have hvalue := hbody hq
      exact hvalue
    next => cases h

theorem inBrackets_forall {body : Reader α}
    (hbody : ∀ {text : List Char} {r : Read α text}, body text = .ok r → P r.value)
    {r : Read α text} (h : inBrackets body text = .ok r) : P r.value := by
  unfold inBrackets at h
  split at h
  next => cases h
  next =>
    split at h
    next =>
      obtain ⟨q, hq, h⟩ := bind_eq_ok.mp h
      obtain rfl := Except.ok.inj h
      have hvalue := hbody hq
      exact hvalue
    next => cases h

end

/-- A value is read from a document as it is read from any text. -/
theorem anyValue_eq (depth : Nat) : (anyValue depth : Reader Json) = Json.value depth := by
  funext text
  unfold anyValue
  cases Json.value depth text <;> rfl

theorem anyField_eq (depth : Nat) :
    (anyField depth : List (String × Json) → String → Except Fault (Reader _)) =
      Json.valueField depth := by
  funext read key
  unfold anyField
  rw [anyValue_eq]
  rfl

theorem within_of_layer {text : List Char} {r : Read PropertyMap text}
    (h : (layer : Reader PropertyMap) text = .ok r) : r.value.Within (maxDepth - 3) := by
  refine inBraces_forall (P := fun m => m.Within (maxDepth - 3)) ?_ h
  intro text r h
  rw [anyField_eq] at h
  obtain ⟨q, hq, h⟩ := bind_eq_ok.mp h
  obtain rfl := Except.ok.inj h
  exact mapOfWritten_within (Json.valueFields_forall
    (P := fun v => nesting v ≤ maxDepth - 3) Json.nesting_value hq)

theorem within_of_layers {text : List Char} {r : Read (List PropertyMap) text}
    (h : (layersReader : Reader (List PropertyMap)) text = .ok r) :
    ∀ m ∈ r.value, m.Within (maxDepth - 3) :=
  inBrackets_forall (P := fun ms => ∀ m ∈ ms, m.Within (maxDepth - 3))
    (Json.items_forall within_of_layer) h

/-- The reader of documents looks at nothing on its way. -/
abbrev noLook : Json → Except Fault Unit := fun _ => pure ()

theorem within_of_child {text : List Char} {r : Read Child text} (h : child noLook text = .ok r) :
    r.value.Within (maxDepth - 3) := by
  unfold child at h
  rw [anyValue_eq] at h
  obtain ⟨q, hq, h⟩ := bind_eq_ok.mp h
  obtain ⟨_, -, h⟩ := bind_eq_ok.mp h
  split at h
  next c hc =>
    obtain rfl := Except.ok.inj h
    exact (Child.within_of_ofWritten hc).mono (Json.nesting_value hq)
  next => cases h

theorem within_of_children {text : List Char} {r : Read (List Child) text}
    (h : childrenReader noLook text = .ok r) : ∀ c ∈ r.value, c.Within (maxDepth - 3) :=
  inBrackets_forall (P := fun cs => ∀ c ∈ cs, c.Within (maxDepth - 3))
    (Json.items_forall within_of_child) h

theorem forall_mem_getD {α : Type} {P : α → Prop} {o : Option (List α)}
    (h : ∀ xs ∈ o, ∀ x ∈ xs, P x) : ∀ x ∈ o.getD [], P x := by
  cases o with
  | none => exact fun x hx => absurd hx List.not_mem_nil
  | some xs => exact h xs rfl

/-- The form of the properties read so far. -/
structure PropsSoFar.AsRead (read : PropsSoFar) : Prop where
  noChildren : ∀ e ∈ read.attributes, e.1 ≠ "children"
  attributes : ∀ e ∈ read.attributes, nesting e.2 ≤ maxDepth - 2
  children : ∀ cs ∈ read.children, ∀ c ∈ cs, c.Within (maxDepth - 3)

theorem asRead_of_propsField {read : PropsSoFar} {key : String} {reader : Reader PropsSoFar}
    {text : List Char} {r : Read PropsSoFar text} (hread : read.AsRead)
    (hreader : propsField noLook read key = .ok reader) (h : reader text = .ok r) :
    r.value.AsRead := by
  unfold propsField at hreader
  split at hreader
  -- the children, which a second time would be a fault
  next =>
    split at hreader
    next => cases hreader
    next =>
      obtain rfl := Except.ok.inj hreader
      obtain ⟨q, hq, h⟩ := bind_eq_ok.mp h
      obtain rfl := Except.ok.inj h
      refine ⟨hread.noChildren, hread.attributes, ?_⟩
      intro cs hcs
      obtain rfl := Option.some.inj hcs
      exact within_of_children hq
  -- an attribute, which has another key
  next hkey =>
    rw [anyValue_eq] at hreader
    obtain rfl := Except.ok.inj hreader
    obtain ⟨q, hq, h⟩ := bind_eq_ok.mp h
    obtain rfl := Except.ok.inj h
    refine ⟨?_, ?_, hread.children⟩
    · exact List.forall_mem_append.mpr ⟨hread.noChildren, List.forall_mem_singleton.mpr hkey⟩
    · exact List.forall_mem_append.mpr
        ⟨hread.attributes, List.forall_mem_singleton.mpr (Json.nesting_value hq)⟩

theorem asRead_of_props {text : List Char} {r : Read Props text}
    (h : propsReader noLook text = .ok r) : r.value.AsRead := by
  refine inBraces_forall ?_ h
  intro text r h
  obtain ⟨q, hq, h⟩ := bind_eq_ok.mp h
  obtain rfl := Except.ok.inj h
  have hread : q.value.AsRead :=
    Json.fields_invariant asRead_of_propsField ⟨nofun, nofun, nofun⟩ hq
  refine ⟨?_, mapOfWritten_within hread.attributes, forall_mem_getD hread.children⟩
  -- a key of the attributes was written as one
  cases hget : (mapOfWritten q.value.attributes).get? "children" with
  | none => exact hget
  | some v =>
    obtain ⟨f, hf, hkey⟩ := key_of_mapOfWritten ((PropertyMap.mem_entries_iff _ _ _).mpr hget)
    exact absurd hkey (hread.noChildren f hf)

/-! ## Whole documents -/

/-- The form of the parts of a document read so far. -/
structure SoFar.AsRead (read : SoFar) : Prop where
  layers : ∀ ms ∈ read.layers, ∀ m ∈ ms, m.Within (maxDepth - 3)
  props : ∀ p ∈ read.props, p.AsRead

theorem asRead_of_documentField {read : SoFar} {key : String} {reader : Reader SoFar}
    {text : List Char} {r : Read SoFar text} (hread : read.AsRead)
    (hreader : documentField noLook read key = .ok reader) (h : reader text = .ok r) :
    r.value.AsRead := by
  unfold documentField at hreader
  split at hreader
  -- the layers of context
  next =>
    split at hreader
    next => cases hreader
    next =>
      obtain rfl := Except.ok.inj hreader
      obtain ⟨q, hq, h⟩ := bind_eq_ok.mp h
      obtain rfl := Except.ok.inj h
      refine ⟨?_, hread.props⟩
      intro ms hms
      obtain rfl := Option.some.inj hms
      exact within_of_layers hq
  -- the properties
  next =>
    split at hreader
    next =>
      split at hreader
      next => cases hreader
      next =>
        obtain rfl := Except.ok.inj hreader
        obtain ⟨q, hq, h⟩ := bind_eq_ok.mp h
        obtain rfl := Except.ok.inj h
        refine ⟨hread.layers, ?_⟩
        intro p hp
        obtain rfl := Option.some.inj hp
        exact asRead_of_props hq
    next => cases hreader

theorem asRead_of_objectForm {text : List Char} {r : Read Document text}
    (h : objectForm noLook text = .ok r) : r.value.AsRead := by
  obtain ⟨q, hq, h⟩ := bind_eq_ok.mp h
  have hread : q.value.AsRead :=
    Json.fields_invariant asRead_of_documentField ⟨nofun, nofun⟩ hq
  split at h
  next props hprops =>
    obtain rfl := Except.ok.inj h
    exact ⟨forall_mem_getD hread.layers, hread.props props hprops⟩
  next => cases h

theorem value_of_listEnd {d : Document} {text : List Char} {r : Read Document text}
    (h : (listEnd d : Reader Document) text = .ok r) : r.value = d := by
  unfold listEnd at h
  split at h
  next => cases h
  next =>
    split at h
    next =>
      obtain rfl := Except.ok.inj h
      rfl
    next => split at h <;> cases h

theorem asRead_of_listForm {text : List Char} {r : Read Document text}
    (h : listForm noLook text = .ok r) : r.value.AsRead := by
  -- of all the ways through the list only one ends without a fault
  unfold listForm at h
  split at h
  next => cases h
  next =>
    split at h
    next => cases h
    next =>
      obtain ⟨layers, hlayers, h⟩ := bind_eq_ok.mp h
      split at h
      next => cases h
      next =>
        split at h
        next => cases h
        split at h
        next =>
          split at h
          next => cases h
          next =>
            split at h
            next => cases h
            next =>
              obtain ⟨props, hprops, h⟩ := bind_eq_ok.mp h
              obtain ⟨q, hq, h⟩ := bind_eq_ok.mp h
              obtain rfl := Except.ok.inj h
              have hvalue := value_of_listEnd hq
              show q.value.AsRead
              rw [hvalue]
              exact ⟨within_of_layers hlayers, asRead_of_props hprops⟩
        next => cases h

/-- **Every document that was read has its values in canonical form, within the limit, and no
children among its attributes**, in whichever form it was written. -/
theorem asRead_of_ofText {text : String} {d : Document} (h : ofText text = .ok d) : d.AsRead := by
  unfold ofText at h
  split at h
  next d' hread =>
    obtain rfl := Except.ok.inj h
    -- a document starts with a brace or a bracket, which decides its form
    obtain ⟨r, hr, hend⟩ := bind_eq_ok.mp hread
    obtain ⟨rfl, -⟩ := Json.toEnd_eq_ok.mp hend
    unfold reader readerLooking at hr
    split at hr
    next => cases hr
    next =>
      split at hr
      next =>
        obtain ⟨q, hq, hr⟩ := bind_eq_ok.mp hr
        obtain rfl := Except.ok.inj hr
        have hread := asRead_of_objectForm hq
        exact hread
      split at hr
      next =>
        obtain ⟨q, hq, hr⟩ := bind_eq_ok.mp hr
        obtain rfl := Except.ok.inj hr
        have hread := asRead_of_listForm hq
        exact hread
      next => cases hr
  next => cases h

end Document

end VideoDelivery
