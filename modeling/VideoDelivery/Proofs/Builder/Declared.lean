import VideoDelivery.Proofs.Builder.Calls
import VideoDelivery.Proofs.Document.RoundTrip
import VideoDelivery.Proofs.Video.Inheritance
import VideoDelivery.Proofs.Video.RespelledValues

/-!
# Built and declared properties

What a builder ends in is a property map and children, the same that a caller could have written by
hand. Written as an object it is read back as it is, since no property takes the name of the
children. And what was asked for by typed calls is read as it was meant: the builder sets
`source_types` and `source_transformation` in their canonical spelling and after everything else,
so no other property decides over them, whatever its spelling and whenever it was set.

* `Props.ofJson_toJson`, `Props.ofJson_canonical` — properties are read back from their object.
* `Format.listOfJson_tokens`, `Overrides.own_toJson` — so are requested formats and overrides.
* `Builder.build_declares` — **built properties are read back, and mean what the calls asked for**.
-/

namespace VideoDelivery

/-! ## Values with their fields in key order -/

theorem Json.canonicalFields_append (xs ys : List (String × Json)) :
    canonicalFields (xs ++ ys) = canonicalFields xs ++ canonicalFields ys := by
  induction xs with
  | nil => rfl
  | cons e rest ih => rw [List.cons_append, canonicalFields, ih, canonicalFields, List.cons_append]

/-- The values within a poster have their fields in key order. -/
def Poster.CanonicalValues : Poster → Prop
  | .asset p => Json.Canonical p.params.toJson ∧ ∀ step ∈ p.chain, Json.Canonical step.toJson
  | .url _ | .frame _ => True

theorem PosterAsset.canonical_toMap {p : PosterAsset} (hparams : Json.Canonical p.params.toJson)
    (hchain : ∀ step ∈ p.chain, Json.Canonical step.toJson) : Json.Canonical p.toMap.toJson := by
  have hwritten : ∀ step ∈ p.writtenChain, Json.Canonical step.toJson := by
    unfold writtenChain
    split
    · exact List.forall_mem_cons.mpr ⟨hparams, hchain⟩
    · exact hchain
  have hsteps : Json.Canonical (.arr (p.writtenChain.map Step.toJson)) := by
    rw [Json.Canonical, Json.canonicalItems_iff, List.forall_mem_map]
    exact hwritten
  rw [Json.canonical_map_iff]
  intro e he
  rcases PropertyMap.mem_insertAll he with he | he
  · -- a flat parameter
    split at he
    · cases he
    · exact Json.canonical_map_iff.mp hparams e he
  · -- a control, which is a text or a truth value, or the chain
    obtain ⟨c, hc, hfield⟩ := List.mem_filterMap.mp he
    obtain ⟨v, hv, rfl⟩ := Option.map_eq_some_iff.mp hfield
    simp only [List.mem_cons, List.not_mem_nil, or_false] at hc
    rcases hc with rfl | rfl | rfl | rfl | rfl | rfl
    case inr.inr.inr.inr.inr =>
      dsimp only at hv
      split at hv
      · cases hv
      · obtain rfl := Option.some.inj hv
        exact hsteps
    case inl =>
      obtain rfl := Option.some.inj hv
      trivial
    all_goals
      obtain ⟨_, -, rfl⟩ := Option.map_eq_some_iff.mp hv
      trivial

theorem Poster.canonical_toJson {poster : Poster} (h : poster.CanonicalValues) :
    Json.Canonical poster.toJson := by
  cases poster with
  | url text => trivial
  | frame secure =>
    cases secure
    · exact ⟨.nil, trivial⟩
    · exact ⟨List.pairwise_singleton .., trivial, trivial⟩
  | asset p => exact PosterAsset.canonical_toMap h.1 h.2

/-- The values within properties have their fields in key order. -/
structure Props.CanonicalValues (p : Props) : Prop where
  attributes : Json.Canonical p.attributes.toJson
  steps : ∀ step ∈ Child.allSteps p.children, Json.Canonical step.toJson

/-! ## Properties as objects -/

namespace Props

/-- Properties are read from an object with their attributes and children, if no attribute has the
name of the children. -/
theorem ofJson_of_ofList {p : Props} (hnone : p.attributes.get? "children" = none)
    {cs : List Json} (hcs : Child.allOfJson cs = some p.children) {fields : List (String × Json)}
    (hfields : PropertyMap.ofList fields = PropertyMap.ofList
      ((if p.children.isEmpty then [] else [("children", .arr cs)]) ++ p.attributes.entries)) :
    ofJson (.obj fields) = .ok p := by
  have hget : ∀ k, (PropertyMap.ofList fields).get? k = (p.attributes.get? k).or
      (if k = "children" ∧ p.children.isEmpty = false then some (.arr cs) else none) := by
    intro k
    rw [hfields, PropertyMap.ofList, PropertyMap.insertAll_append,
      PropertyMap.get?_insertAll p.attributes.sorted]
    show (p.attributes.get? k).or _ = _
    congr 1
    cases p.children.isEmpty with
    | true => simp [PropertyMap.insertAll]
    | false => simp [PropertyMap.insertAll]
  have hattributes : (PropertyMap.ofList fields).erase "children" = p.attributes := by
    apply PropertyMap.ext_get?
    intro k
    rw [PropertyMap.get?_erase, hget]
    split
    next hk => rw [hk, hnone]
    next hk => rw [if_neg fun h => hk h.1, Option.or_none]
  have hchildren := hget "children"
  rw [hnone, Option.none_or] at hchildren
  obtain ⟨children, attributes⟩ := p
  cases children with
  | nil =>
    simp only [ofJson, Json.field?, hchildren, hattributes]
    rfl
  | cons c rest =>
    simp only [ofJson, Json.field?, hchildren, hattributes]
    simp [Child.listOfJson, hcs, bind, Except.bind, pure, Except.pure]

/-- Properties are read back from their written form. -/
theorem ofJson_toJson {p : Props} (h : p.attributes.get? "children" = none) :
    ofJson p.toJson = .ok p :=
  ofJson_of_ofList h (Child.allOfJson_allToJson p.children) rfl

/-- And they are read back from it as an object in key order. -/
theorem ofJson_canonical {p : Props} (h : p.attributes.get? "children" = none)
    (hvalues : p.CanonicalValues) : ofJson p.toJson.canonical = .ok p := by
  refine ofJson_of_ofList h (Child.allOfJson_canonicalItems p.children hvalues.steps) ?_
  have hattributes := Json.canonicalFields_of_Canonical hvalues.attributes.2
  rw [PropertyMap.ofList_entries, toFields, Json.canonicalFields_append, hattributes]
  cases p.children.isEmpty <;> rfl

end Props

/-! ## Formats and overrides -/

theorem Format.normalToken_token (f : Format) : Text.normalToken f.token = f.token := by
  cases f <;> decide

/-- Requested formats are read back from their tokens. -/
theorem Format.listOfJson_tokens (formats : List Format) :
    listOfJson (.arr (formats.map fun f => .str f.token)) = .ok formats := by
  rw [listOfJson, mapM_eq_ok, List.forall₂_map_left_iff, List.forall₂_same]
  intro f _
  rw [ofItem, ofToken_eq_ok, f.normalToken_token]

/-- Overrides that are written under the tokens of their formats are read back. -/
theorem Overrides.own_toJson {m : PropertyMap}
    (hkeys : ∀ e ∈ m.entries, ∃ f : Format, e.1 = f.token) (f : Format) :
    own (some m.toJson) f = (m.get? f.token).bind Child.stepOfJson? := by
  -- the entry of a format is the one under its token
  have hgiven : ∀ e ∈ m.entries, ∀ step, given f e = some step →
      m.get? f.token = some e.2 ∧ Child.stepOfJson? e.2 = some step := by
    intro e he step hstep
    obtain ⟨g, hg⟩ := hkeys e he
    unfold given at hstep
    split at hstep
    next htoken =>
      rw [hg, g.normalToken_token, ← hg] at htoken
      exact ⟨htoken ▸ (m.mem_entries_iff e.1 e.2).mp he, hstep⟩
    next => cases hstep
  have hunique : ∀ e ∈ m.entries.reverse, ∀ e' ∈ m.entries.reverse, ∀ s t,
      given f e = some s → given f e' = some t → s = t := by
    intro e he e' he' s t hs ht
    obtain ⟨hvalue, hs⟩ := hgiven e (List.mem_reverse.mp he) s hs
    obtain ⟨hvalue', ht⟩ := hgiven e' (List.mem_reverse.mp he') t ht
    obtain hsame := Option.some.inj (hvalue.symm.trans hvalue')
    exact Option.some.inj (hs.symm.trans (hsame ▸ ht))
  apply Option.ext
  intro step
  show (PropertyMap.ofList m.entries).entries.reverse.findSome? (given f) = some step ↔ _
  rw [PropertyMap.ofList_entries, findSome?_eq_some_iff_of_unique hunique, Option.bind_eq_some_iff]
  constructor
  · rintro ⟨e, he, hstep⟩
    exact ⟨e.2, hgiven e (List.mem_reverse.mp he) step hstep⟩
  · rintro ⟨v, hv, hstep⟩
    refine ⟨(f.token, v), List.mem_reverse.mpr ((m.mem_entries_iff _ _).mpr hv), ?_⟩
    rw [given, if_pos f.normalToken_token.symm, hstep]

/-! ## Builders -/

namespace Builder

/-- The values that a call is given have their fields in key order. -/
def Call.CanonicalValues : Call → Prop
  | .param _ value | .attr _ value => Json.Canonical value
  | .sourceTransformation _ step | .transformation step => Json.Canonical step.toJson
  | .poster shown => shown.CanonicalValues
  | .cloudName _ | .secure _ | .sourceType _ | .posterUrl _ | .fallback _ => True

theorem Call.canonical_of_property? {c : Call} (h : c.CanonicalValues) {e : String × Json}
    (he : c.property? = some e) : Json.Canonical e.2 := by
  cases c
  case param | attr =>
    obtain rfl := Option.some.inj he
    exact h
  case poster =>
    obtain rfl := Option.some.inj he
    exact Poster.canonical_toJson h
  case cloudName | secure | posterUrl =>
    obtain rfl := Option.some.inj he
    trivial
  all_goals cases he

theorem Call.canonical_of_override? {c : Call} (h : c.CanonicalValues) {e : String × Json}
    (he : c.override? = some e) : Json.Canonical e.2 := by
  cases c
  case sourceTransformation =>
    obtain rfl := Option.some.inj he
    exact h
  all_goals cases he

theorem Call.canonical_of_step? {c : Call} (h : c.CanonicalValues) {step : Step}
    (hstep : c.step? = some step) : Json.Canonical step.toJson := by
  cases c
  case transformation =>
    obtain rfl := Option.some.inj hstep
    exact h
  all_goals cases hstep

section

variable {calls : List Call}

/-- Overrides are kept under the tokens of their formats. -/
theorem overrides_keys (id : Option String) :
    ∀ e ∈ ((started id).after calls).overrides.entries, ∃ f : Format, e.1 = f.token := by
  intro e he
  rw [overrides_after_started] at he
  obtain ⟨c, -, hc⟩ := List.mem_filterMap.mp (PropertyMap.mem_ofList he)
  cases c
  case sourceTransformation format step =>
    obtain rfl := Option.some.inj hc
    exact ⟨format, rfl⟩
  all_goals cases hc

theorem canonical_attributes (h : ∀ c ∈ calls, c.CanonicalValues) (id : Option String) :
    ∀ e ∈ ((started id).after calls).attributes.entries, Json.Canonical e.2 := by
  intro e he
  rw [after_eq] at he
  rcases PropertyMap.mem_insertAll he with he | he
  · cases id with
    | none => cases he
    | some publicId =>
      obtain rfl := List.mem_singleton.mp he
      trivial
  · obtain ⟨c, hc, he⟩ := List.mem_filterMap.mp he
    exact Call.canonical_of_property? (h c hc) he

theorem canonical_overrides (h : ∀ c ∈ calls, c.CanonicalValues) (id : Option String) :
    Json.Canonical ((started id).after calls).overrides.toJson := by
  rw [Json.canonical_map_iff]
  intro e he
  rw [overrides_after_started] at he
  obtain ⟨c, hc, he⟩ := List.mem_filterMap.mp (PropertyMap.mem_ofList he)
  exact Call.canonical_of_override? (h c hc) he

theorem canonicalValues_built (h : ∀ c ∈ calls, c.CanonicalValues) (id : Option String) :
    (built id calls).CanonicalValues := by
  constructor
  case attributes =>
    rw [Json.canonical_map_iff]
    intro e he
    rcases PropertyMap.mem_insertAll he with he | he
    · exact canonical_attributes h id e he
    · rcases List.mem_append.mp he with he | he
      · split at he
        · cases he
        · obtain rfl := List.mem_singleton.mp he
          refine Json.canonicalItems_iff.mpr fun v hv => ?_
          obtain ⟨f, -, rfl⟩ := List.mem_map.mp hv
          trivial
      · split at he
        · cases he
        · obtain rfl := List.mem_singleton.mp he
          exact canonical_overrides h id
  case steps =>
    intro step hstep
    replace hstep : step ∈ Child.allSteps ((started id).after calls).children := hstep
    rw [children_after_started, allSteps_filterMap_child?] at hstep
    obtain ⟨c, hc, hstep⟩ := List.mem_filterMap.mp hstep
    exact Call.canonical_of_step? (h c hc) hstep

/-- Unless a call sets a property of that name, none has the name of the children. -/
theorem get?_built_children
    (h : ∀ v, .attr "children" v ∉ calls ∧ .param "children" v ∉ calls) (id : Option String) :
    (built id calls).attributes.get? "children" = none := by
  rw [built, get?_build_of_ne (by decide) (by decide), after_eq,
    PropertyMap.get?_insertAll_reverse, Option.or_eq_none_iff]
  constructor
  · apply lookup_property?_eq_none
    intro c hc v hset
    cases c
    case attr name value =>
      obtain ⟨rfl, -⟩ := Prod.mk.inj (Option.some.inj hset)
      exact (h value).1 hc
    case param name value =>
      obtain ⟨rfl, -⟩ := Prod.mk.inj (Option.some.inj hset)
      exact (h value).2 hc
    all_goals simp [Call.property?] at hset
  · cases id with
    | none => rfl
    | some publicId => exact (PropertyMap.get?_insert ..).trans (if_neg (by decide))

end

/-! ## What built properties resolve to -/

section

variable {id : Option String} {calls : List Call} {ctx : Context} {r : Resolved}

theorem mem_configNames_formats : "source_types" ∈ configNames := by decide

theorem mem_configNames_overrides : "source_transformation" ∈ configNames := by decide

theorem formats_of_resolve (h : (built id calls).resolve ctx = .ok r)
    (hcalled : ∃ f, .sourceType f ∈ calls) : r.config.formats = calls.filterMap Call.format? := by
  have hformats := formats_after_started id calls
  obtain ⟨f, hf⟩ := hcalled
  have hne : ((started id).after calls).formats ≠ [] := by
    rw [hformats]
    exact List.ne_nil_of_mem (List.mem_filterMap.mpr ⟨_, hf, rfl⟩)
  obtain ⟨-, hread, -, -⟩ := Config.property_of_ok (Props.ofProperties_of_resolve h)
  rw [Props.property_of_own (p := built id calls) mem_configNames_formats (by decide)
    (get?_build_formats hne), Format.listOfJson_tokens] at hread
  exact (Except.ok.inj hread).symm.trans hformats

theorem overrides_of_resolve (h : (built id calls).resolve ctx = .ok r)
    (hcalled : ∃ f step, .sourceTransformation f step ∈ calls) (f : Format) :
    r.config.overrides.get? f = calls.reverse.findSome? (Call.stepFor? f) := by
  have hget := get?_overrides_after_started id calls
  obtain ⟨g, step, hg⟩ := hcalled
  have hne : ((started id).after calls).overrides.isEmpty = false := by
    -- the format that was given a step has one
    have hsome : (calls.reverse.findSome? (Call.stepFor? g)).isSome = true := by
      refine List.findSome?_isSome_iff.mpr ⟨_, List.mem_reverse.mpr hg, ?_⟩
      rw [Call.stepFor?, if_pos rfl]
      rfl
    obtain ⟨last, hlast⟩ := Option.isSome_iff_exists.mp hsome
    have hentry := hget g
    rw [hlast, Option.map_some, ← PropertyMap.mem_entries_iff] at hentry
    exact List.isEmpty_eq_false_iff.mpr (List.ne_nil_of_mem hentry)
  obtain ⟨-, -, hread, -⟩ := Config.property_of_ok (Props.ofProperties_of_resolve h)
  rw [Props.property_of_own (p := built id calls) mem_configNames_overrides (by decide)
    (get?_build_overrides hne)] at hread
  rw [Overrides.get?_ofProperty hread f, Overrides.own_toJson (overrides_keys id), hget]
  cases calls.reverse.findSome? (Call.stepFor? f) with
  | none => rfl
  | some step => exact Child.stepOfJson?_toJson step

theorem chain_of_resolve (h : (built id calls).resolve ctx = .ok r) :
    r.config.chain = Chain.explicit (((built id calls).mergedConfig ctx).get? "transformation") ++
      calls.filterMap Call.step? := by
  obtain ⟨-, -, -, explicit, hread, hchain⟩ :=
    Config.property_of_ok (Props.ofProperties_of_resolve h)
  have hexplicit := Config.of_property (P := fun v steps => steps = Chain.explicit v) hread rfl
    fun _ hv => Config.explicit_of_chainOf hv
  rw [PropertyMap.get?_erase, if_neg (by decide)] at hexplicit
  rw [hchain, hexplicit]
  congr 1
  show Child.allSteps ((started id).after calls).children = _
  rw [children_after_started, allSteps_filterMap_child?]

end

/-- **Built properties are declared ones.** Unless a call sets a property of the name of the
children, what any calls build is read back from its written form as it is, and also from the object
in key order when the values that were given are such objects.

When it resolves, under whatever context, typed calls have the last word over whatever properties
were set in whatever spelling, before them or after: the formats are the requested ones in the order
of the calls, each format has the last step that it was given, and the steps of the descriptors come
in the order of the calls after those of a chain-valued property. -/
theorem build_declares (id : Option String) (calls : List Call)
    (hchildren : ∀ v, .attr "children" v ∉ calls ∧ .param "children" v ∉ calls) :
    Props.ofJson (built id calls).toJson = .ok (built id calls) ∧
    ((∀ c ∈ calls, c.CanonicalValues) →
      Props.ofJson (built id calls).toJson.canonical = .ok (built id calls)) ∧
    ∀ ctx r, (built id calls).resolve ctx = .ok r →
      ((∃ f, .sourceType f ∈ calls) → r.config.formats = calls.filterMap Call.format?) ∧
      ((∃ f step, .sourceTransformation f step ∈ calls) → ∀ f,
        r.config.overrides.get? f = calls.reverse.findSome? (Call.stepFor? f)) ∧
      r.config.chain = Chain.explicit (((built id calls).mergedConfig ctx).get? "transformation") ++
        calls.filterMap Call.step? := by
  have hnone := get?_built_children hchildren id
  refine ⟨Props.ofJson_toJson hnone, fun hvalues => ?_, fun ctx r h => ⟨?_, ?_, ?_⟩⟩
  · exact Props.ofJson_canonical hnone (canonicalValues_built hvalues id)
  · exact formats_of_resolve h
  · exact overrides_of_resolve h
  · exact chain_of_resolve h

/-- Formats and overrides that are asked for by calls, and set as properties before and after. -/
def overridden : List Call := [
  .cloudName "demo", .attr "sourceTypes" (.str "ogv"), .sourceType .webm,
  .sourceTransformation .webm (Step.empty.insert "width" (.ofNat 1)), .sourceType .mp4,
  .transformation (Step.empty.insert "quality" (.ofNat 70)),
  .attr "source_types" (.arr [.str "mov"]), .attr "SourceTransformation" (.str "none"),
  .param "transformation" (.obj [("angle", .ofNat 5)]),
  .sourceTransformation .webm (Step.empty.insert "width" (.ofNat 2)), .transformation .empty]

/-- The calls decide, and what they build is read back. -/
theorem build_declares_overridden : ∃ r, (built (some "dog") overridden).resolve .empty = .ok r ∧
    r.config.formats = [.webm, .mp4] ∧
    r.config.overrides.get? .webm = some (Step.empty.insert "width" (.ofNat 2)) ∧
    r.config.chain = [Step.ofFields [("angle", .ofNat 5)],
      Step.empty.insert "quality" (.ofNat 70), .empty] ∧
    Props.ofJson (built (some "dog") overridden).toJson = .ok (built (some "dog") overridden) ∧
    Props.ofJson (built (some "dog") overridden).toJson.canonical =
      .ok (built (some "dog") overridden) := by
  obtain ⟨hread, hcanonical, hresolved⟩ := build_declares (some "dog") overridden (by
    intro v
    simp [overridden])
  have hrun : ((built (some "dog") overridden).resolve .empty).map (fun _ => ()) = .ok () := by
    decide +kernel
  obtain ⟨r, hr⟩ := map_eq_ok_iff.mp hrun
  obtain ⟨hformats, hoverrides, hchain⟩ := hresolved .empty r hr
  refine ⟨r, hr, hformats ⟨.webm, by simp [overridden]⟩, ?_, ?_, hread, hcanonical ?_⟩
  · exact hoverrides ⟨.webm, Step.empty.insert "width" (.ofNat 1), by simp [overridden]⟩ .webm
  · have hexplicit : (built (some "dog") overridden).attributes.get? "transformation" =
        some (.obj [("angle", .ofNat 5)]) := by
      rw [built, get?_build_of_ne (by decide) (by decide), after_eq,
        PropertyMap.get?_insertAll_reverse]
      rfl
    rw [hchain, Props.get?_mergedConfig_of_own (by decide) hexplicit]
    rfl
  · have hone : ∀ name n, Json.Canonical (.obj [(name, .ofNat n)]) := fun _ _ =>
      ⟨List.pairwise_singleton .., trivial, trivial⟩
    have hnone : Json.Canonical Step.empty.toJson := ⟨.nil, trivial⟩
    simp only [overridden, List.forall_mem_cons, List.not_mem_nil, false_imp_iff, implies_true,
      Call.CanonicalValues, Json.Canonical, Json.CanonicalItems, hnone, and_true, true_and]
    exact ⟨hone "width" 1, hone "quality" 70, hone "angle" 5, hone "width" 2⟩

end Builder

end VideoDelivery
