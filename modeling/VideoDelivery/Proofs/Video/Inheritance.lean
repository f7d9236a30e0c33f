import VideoDelivery.Proofs.Property.Mentions
import VideoDelivery.Video.Render

/-!
# Inheritance from contexts

A name may be mentioned in several spellings, by the element and by any number of layers around it.
Each layer settles by itself which of its spellings counts (`PropertyMap.mentioned?`), and then the
innermost mention of all counts, whatever its value is. So a stack of layers says no more than a few
properties that the element could have of its own (`Props.standingAlone`).

* `Context.get?_ofLayers` — of several layers the innermost mention counts.
* `Props.inherits_by_name` — **the element inherits name by name**, and renders as it does with
  what it inherits among its own properties.
-/

namespace VideoDelivery

/-! ## Layers -/

/-- Of several layers the innermost mention counts, and no name but a canonical one is kept. -/
theorem Context.get?_ofLayers (layers : List PropertyMap) (k : String) :
    (ofLayers layers).config.get? k =
      if k ∈ configNames then layers.reverse.findSome? (·.mentioned? k) else none := by
  split
  next hk =>
    -- the induction is for any context around the layers
    have hnested : ∀ ctx : Context, (layers.foldl nest ctx).config.get? k =
        (layers.reverse.findSome? (·.mentioned? k)).or (ctx.config.get? k) := by
      induction layers with
      | nil => exact fun _ => rfl
      | cons layer rest ih =>
        intro ctx
        rw [List.foldl_cons, ih, get?_nest, Classified.get?_config_eq_mentioned? hk,
          List.reverse_cons, List.findSome?_append, List.findSome?_singleton, Option.or_assoc]
    exact (hnested empty).trans Option.or_none
  next hk => exact (canonical_ofLayers layers).get?_eq_none hk

/-! ## Properties of its own -/

/-- Setting the values that some names have sets each of these names and no other. -/
theorem PropertyMap.get?_insertAll_filterMap (value : String → Option Json) (names : List String)
    (m : PropertyMap) (k : String) :
    (m.insertAll (names.filterMap fun n => (value n).map fun v => (n, v))).get? k =
      if k ∈ names then (value k).or (m.get? k) else m.get? k := by
  induction names generalizing m with
  | nil => rfl
  | cons n rest ih =>
    rw [List.filterMap_cons]
    cases hvalue : value n with
    | none =>
      rw [Option.map_none, ih]
      by_cases hk : k = n
      · subst hk
        simp [hvalue]
      · simp [hk]
    | some v =>
      show ((m.insert n v).insertAll _).get? k = _
      rw [ih, get?_insert]
      by_cases hk : k = n
      · subst hk
        simp [hvalue]
      · simp [hk]

namespace Props

/-- The value that the element inherits for a name: none if it mentions the name itself, and
otherwise that of the innermost layer that does. -/
def inherited? (p : Props) (layers : List PropertyMap) (name : String) : Option Json :=
  if (p.attributes.mentioned? name).isSome then none
  else layers.reverse.findSome? (·.mentioned? name)

/-- All that the element inherits, under canonical names. -/
def inheritedFields (p : Props) (layers : List PropertyMap) : List (String × Json) :=
  configNames.filterMap fun k => (p.inherited? layers k).map fun v => (k, v)

/-- The element with all that it inherits among its own properties. -/
def standingAlone (p : Props) (layers : List PropertyMap) : Props :=
  { p with attributes := p.attributes.insertAll (p.inheritedFields layers) }

theorem get?_standingAlone (p : Props) (layers : List PropertyMap) (k : String) :
    (p.standingAlone layers).attributes.get? k =
      if k ∈ configNames then (p.inherited? layers k).or (p.attributes.get? k)
      else p.attributes.get? k :=
  PropertyMap.get?_insertAll_filterMap _ _ _ _

/-- On its own the element mentions what it mentioned, and what it inherited. -/
theorem mentioned?_standingAlone {k : String} (hk : k ∈ configNames) (p : Props)
    (layers : List PropertyMap) : (p.standingAlone layers).attributes.mentioned? k =
      (p.attributes.mentioned? k).or (layers.reverse.findSome? (·.mentioned? k)) := by
  cases hinherited : p.inherited? layers k with
  | some v =>
    -- the name has the inherited value in its canonical spelling
    have hget : (p.standingAlone layers).attributes.get? k = some v := by
      rw [get?_standingAlone, if_pos hk, hinherited, Option.some_or]
    unfold inherited? at hinherited
    split at hinherited
    · cases hinherited
    next hsilent =>
      rw [Option.not_isSome_iff_eq_none.mp hsilent, Option.none_or, hinherited,
        PropertyMap.mentioned?, hget, Option.some_or]
  | none =>
    -- no spelling of the name has been touched
    have hsame : (p.standingAlone layers).attributes.mentioned? k = p.attributes.mentioned? k := by
      rw [← Classified.get?_config_eq_mentioned? hk, ← Classified.get?_config_eq_mentioned? hk,
        Classified.get?_config, Classified.get?_config]
      congr 1
      apply spellings_congr
      intro name hspells
      rw [get?_standingAlone]
      split
      next hname =>
        obtain rfl : name = k := by
          rw [configName?_configNames name hname] at hspells
          exact Option.some.inj hspells
        rw [hinherited, Option.none_or]
      next => rfl
    rw [hsame]
    unfold inherited? at hinherited
    split at hinherited
    next hmentioned =>
      obtain ⟨v, hv⟩ := Option.isSome_iff_exists.mp hmentioned
      rw [hv, Option.some_or]
    next => rw [hinherited, Option.or_none]

/-- What is inherited is configuration, so nothing more is passed through. -/
theorem passthrough_standingAlone (p : Props) (layers : List PropertyMap) :
    (Classified.ofMap (p.standingAlone layers).attributes).passthrough =
      (Classified.ofMap p.attributes).passthrough := by
  apply PropertyMap.ext_get?
  intro k
  rw [Classified.get?_passthrough, Classified.get?_passthrough]
  congr 1
  apply spellings_congr
  intro name hspells
  have hname : name ∉ configNames := by
    intro hname
    rw [attributeName?, configName?_configNames name hname] at hspells
    cases hspells
  rw [get?_standingAlone, if_neg hname]

/-! ## The merged configuration -/

theorem get?_mergedConfig_ofLayers (p : Props) (layers : List PropertyMap) (k : String) :
    (p.mergedConfig (.ofLayers layers)).get? k =
      if k ∈ configNames then (p.attributes :: layers.reverse).findSome? (·.mentioned? k)
      else none := by
  rw [get?_mergedConfig, Context.get?_ofLayers]
  split
  next hk =>
    rw [Classified.get?_config_eq_mentioned? hk, List.findSome?_cons]
    cases p.attributes.mentioned? k <;> rfl
  next hk => rw [(Classified.canonical_ofMap p.attributes).get?_eq_none hk, Option.none_or]

/-- A value that the element gives a name in its canonical spelling counts before all others. -/
theorem get?_mergedConfig_of_own {p : Props} {k : String} {v : Json} (hk : k ∈ configNames)
    (h : p.attributes.get? k = some v) (ctx : Context) : (p.mergedConfig ctx).get? k = some v := by
  rw [get?_mergedConfig, Classified.get?_config_eq_mentioned? hk, PropertyMap.mentioned?, h,
    Option.some_or, Option.some_or]

/-- So it is what the property is read from; the fallback text is not read in this way. -/
theorem property_of_own {p : Props} {k : String} {v : Json} (hk : k ∈ configNames)
    (hfallback : k ≠ "fallback") (h : p.attributes.get? k = some v) (ctx : Context) {α : Type}
    (absent : α) (read : Json → Except Error α) :
    Config.property ((p.mergedConfig ctx).erase "fallback") k absent read = read v := by
  rw [Config.property, PropertyMap.get?_erase, if_neg hfallback, get?_mergedConfig_of_own hk h]

theorem mergedConfig_standingAlone (p : Props) (layers : List PropertyMap) :
    (p.standingAlone layers).mergedConfig .empty = p.mergedConfig (.ofLayers layers) := by
  apply PropertyMap.ext_get?
  intro k
  rw [show Context.empty = .ofLayers [] from rfl, get?_mergedConfig_ofLayers,
    get?_mergedConfig_ofLayers]
  split
  next hk =>
    rw [List.findSome?_cons, List.findSome?_cons, mentioned?_standingAlone hk]
    cases p.attributes.mentioned? k with
    | some v => rfl
    | none =>
      rw [Option.none_or]
      cases layers.reverse.findSome? (·.mentioned? k) <;> rfl
  next => rfl

/-- **Inheritance is name by name.** In the merged configuration a canonical name has the value that
the element gives it in some spelling, null included, or else the value of the innermost layer that
mentions it, and no other name has one; the same goes for the context alone. So the element renders
under its layers as it does on its own with what it inherits among its own properties. -/
theorem inherits_by_name (p : Props) (layers : List PropertyMap) :
    (∀ k, (p.mergedConfig (.ofLayers layers)).get? k =
      if k ∈ configNames then (p.attributes :: layers.reverse).findSome? (·.mentioned? k)
      else none) ∧
    (∀ k, (Context.ofLayers layers).config.get? k =
      if k ∈ configNames then layers.reverse.findSome? (·.mentioned? k) else none) ∧
    p.render (.ofLayers layers) = (p.standingAlone layers).render .empty := by
  refine ⟨get?_mergedConfig_ofLayers p layers, Context.get?_ofLayers layers, ?_⟩
  -- the two resolve to one configuration, with the same children
  have hresolve : (p.standingAlone layers).resolve .empty = p.resolve (.ofLayers layers) := by
    unfold resolve
    rw [mergedConfig_standingAlone, passthrough_standingAlone]
    rfl
  rw [render, render, hresolve]

end Props

end VideoDelivery
