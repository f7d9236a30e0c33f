import VideoDelivery.Video.Props

/-!
# Merged configurations

The configuration that an element is read from is its own one, classified, over the one of its
context. Two facts about it do not depend on how many layers of context there are.

* `Props.get?_mergedConfig` — **each name has the value of the element, and that of the context
  where the element has none**.
* `Props.canonical_mergedConfig` — **all names are canonical**, since every layer was classified
  before it was laid over the ones around it.
-/

namespace VideoDelivery

/-! ## Laying one map over another -/

namespace PropertyMap

theorem get?_insertAll {fields : List (String × Json)} (h : InKeyOrder fields) (m : PropertyMap)
    (k : String) : (m.insertAll fields).get? k = (fields.lookup k).or (m.get? k) := by
  induction fields generalizing m with
  | nil => rfl
  | cons e rest ih =>
    obtain ⟨l, v⟩ := e
    obtain ⟨hfirst, hlater⟩ := List.pairwise_cons.mp h
    show ((m.insert l v).insertAll rest).get? k = _
    rw [ih hlater, get?_insert, lookup_field]
    by_cases hk : k = l
    · subst hk
      -- the name does not come again, so nothing further on replaces the value
      have habsent : rest.lookup k = none := by
        cases hrest : rest.lookup k with
        | none => rfl
        | some w =>
          have hmem := (lookup_eq_some_iff hlater k w).mp hrest
          exact absurd (hfirst (k, w) hmem) (String.lt_irrefl k)
      simp [habsent]
    · simp [hk]

theorem get?_overlay (inherited own : PropertyMap) (k : String) :
    (inherited.overlay own).get? k = (own.get? k).or (inherited.get? k) :=
  get?_insertAll own.sorted inherited k

end PropertyMap

/-! ## Canonical names -/

/-- Every name is the canonical spelling of a control or a transformation parameter. -/
def PropertyMap.Canonical (m : PropertyMap) : Prop :=
  ∀ k v, m.get? k = some v → configName? k = some k

theorem PropertyMap.canonical_empty : PropertyMap.empty.Canonical := by
  intro k v h
  cases h

theorem configName?_controls : ∀ k ∈ controlNames, configName? k = some k := by
  decide +kernel

theorem canonicalName?_controls : ∀ k ∈ controlNames, Parameter.canonicalName? k = none := by
  decide +kernel

/-- A canonical name is its own canonical name. -/
theorem configName?_canonical {name k : String} (h : configName? name = some k) :
    configName? k = some k := by
  unfold configName? at h
  rcases Option.or_eq_some_iff.mp h with hcontrol | ⟨hnone, hparam⟩
  · exact configName?_controls k (Name.mem_of_lookup hcontrol)
  · have hfold := Parameter.fold_canonicalName hparam
    rw [configName?, Name.lookup_congr hfold, hnone, Parameter.canonicalName?_canonical hparam]
    rfl

/-- Controls and transformation parameters share no name, so a canonical name that is a parameter
is the canonical name of that parameter. -/
theorem canonicalName?_of_configName? {k : String} (h : configName? k = some k)
    (hparam : Parameter.isParameter k = true) : Parameter.canonicalName? k = some k := by
  unfold configName? at h
  rcases Option.or_eq_some_iff.mp h with hcontrol | ⟨-, hname⟩
  · have hnone := canonicalName?_controls k (Name.mem_of_lookup hcontrol)
    rw [Parameter.isParameter, hnone] at hparam
    cases hparam
  · exact hname

namespace Classified

theorem canonical_add {c : Classified} (h : c.config.Canonical) (name : String) (value : Json) :
    (c.add name value).config.Canonical := by
  unfold add
  split
  next canonical hname =>
    intro k v hv
    replace hv : (c.config.insertAs canonical name value).get? k = some v := hv
    rw [PropertyMap.get?_insertAs] at hv
    split at hv
    next hk =>
      subst hk
      exact configName?_canonical hname
    next => exact h k v hv
  next => split <;> exact h

theorem canonical_addAll {c : Classified} (h : c.config.Canonical)
    (fields : List (String × Json)) : (c.addAll fields).config.Canonical := by
  induction fields generalizing c with
  | nil => exact h
  | cons e rest ih => exact ih (canonical_add h e.1 e.2)

/-- What classification takes for configuration has canonical names. -/
theorem canonical_ofMap (properties : PropertyMap) : (ofMap properties).config.Canonical :=
  canonical_addAll PropertyMap.canonical_empty properties.entries

end Classified

theorem PropertyMap.canonical_overlay {inherited own : PropertyMap} (hinherited : inherited.Canonical)
    (hown : own.Canonical) : (inherited.overlay own).Canonical := by
  intro k v hv
  rw [get?_overlay] at hv
  rcases Option.or_eq_some_iff.mp hv with hv | ⟨-, hv⟩
  · exact hown k v hv
  · exact hinherited k v hv

theorem Context.canonical_nest {ctx : Context} (h : ctx.config.Canonical) (layer : PropertyMap) :
    (ctx.nest layer).config.Canonical :=
  PropertyMap.canonical_overlay h (Classified.canonical_ofMap layer)

/-- Whatever layers a context has, its names are canonical. -/
theorem Context.canonical_ofLayers (layers : List PropertyMap) :
    (ofLayers layers).config.Canonical := by
  unfold ofLayers
  have hempty : Context.empty.config.Canonical := PropertyMap.canonical_empty
  generalize Context.empty = ctx at hempty
  induction layers generalizing ctx with
  | nil => exact hempty
  | cons layer rest ih => exact ih _ (canonical_nest hempty layer)

namespace Props

/-- **Each name has the value of the element, or else that of the context.** -/
theorem get?_mergedConfig (p : Props) (ctx : Context) (k : String) :
    (p.mergedConfig ctx).get? k =
      ((Classified.ofMap p.attributes).config.get? k).or (ctx.config.get? k) :=
  PropertyMap.get?_overlay _ _ k

/-- **All names of a merged configuration are canonical.** -/
theorem canonical_mergedConfig (p : Props) (layers : List PropertyMap) :
    (p.mergedConfig (.ofLayers layers)).Canonical :=
  PropertyMap.canonical_overlay (Context.canonical_ofLayers layers)
    (Classified.canonical_ofMap p.attributes)

end Props

end VideoDelivery
