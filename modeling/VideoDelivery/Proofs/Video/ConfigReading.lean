import VideoDelivery.Proofs.Property.Canonical
import VideoDelivery.Proofs.Video.Rendered

/-!
# What a typed configuration is read from

A typed configuration is read property by property. When the reading succeeds, each part of the
result is determined by the value of one property, and `Config.ReadFrom` says how:

* the requested formats stand in the order of the request (`Format.Requested`);
* the steps of a chain-valued `transformation` stand in the order of its items
  (`Chain.explicit`), and every other transformation parameter is part of the flat step;
* the step of its own that a format has is the last one given for it (`Overrides.own`).

* `Config.readFrom_of_ok` — **a configuration that is read is read from its properties**.
* `Props.readFrom_of_render` — the snapshot of a rendering is read from the merged configuration.
-/

namespace VideoDelivery

/-! ## Tokens -/

theorem Format.ofToken_eq_ok {s : String} {f : Format} :
    Format.ofToken s = .ok f ↔ f.token = Text.normalToken s := by
  unfold Format.ofToken Format.ofToken?
  constructor
  · intro h
    split at h
    next g hg =>
      obtain rfl := Except.ok.inj h
      simpa using List.find?_some hg
    next => cases h
  · intro htoken
    split
    next g hg =>
      have hg : g.token = Text.normalToken s := by simpa using List.find?_some hg
      rw [Format.token_injective (hg.trans htoken.symm)]
    next hnone =>
      have habsent := List.find?_eq_none.mp hnone f f.mem_all
      exact absurd htoken (by simpa using habsent)

theorem ResourceType.token_of_ofToken {s : String} {t : ResourceType}
    (h : ResourceType.ofToken s = .ok t) : t.token = Text.normalToken s := by
  unfold ResourceType.ofToken at h
  split at h
  next u hu =>
    obtain rfl := Except.ok.inj h
    simpa using List.find?_some hu
  next => cases h

/-! ## Requested formats -/

/-- A value requests some formats: none if it is absent or null, the one of a token, or those of a
list of tokens in its order. -/
def Format.Requested : Option Json → List Format → Prop
  | none, formats | some .null, formats => formats = []
  | some (.str s), formats => ∃ f, formats = [f] ∧ f.token = Text.normalToken s
  | some (.arr items), formats =>
    List.Forall₂ (fun v f => ∃ s, v = .str s ∧ f.token = Text.normalToken s) items formats
  | some _, _ => False

theorem Format.token_of_ofItem {v : Json} {f : Format} (h : Format.ofItem v = .ok f) :
    ∃ s, v = .str s ∧ f.token = Text.normalToken s := by
  cases v
  case str s => exact ⟨s, rfl, Format.ofToken_eq_ok.mp h⟩
  all_goals cases h

theorem Format.requested_of_listOfJson {v : Json} {formats : List Format}
    (h : Format.listOfJson v = .ok formats) : Format.Requested (some v) formats := by
  cases v
  case null => exact (Except.ok.inj h).symm
  case str s =>
    obtain ⟨f, hf, h⟩ := bind_eq_ok.mp h
    exact ⟨f, (Except.ok.inj h).symm, Format.ofToken_eq_ok.mp hf⟩
  case arr items => exact (mapM_eq_ok.mp h).imp fun _ _ => Format.token_of_ofItem
  all_goals cases h

/-! ## Explicit steps -/

/-- The steps of a chain-valued property: that of an object, or those of the objects of a list in
their order. Any other value has none. -/
def Chain.explicit : Option Json → List Step
  | some (.obj fields) => [Step.ofFields fields]
  | some (.arr items) => items.filterMap Child.stepOfJson?
  | _ => []

theorem Chain.explicit_of_ofItems {items : List Json} {index : Nat} {steps : List Step}
    (h : Chain.ofItems index items = .ok steps) :
    items.filterMap Child.stepOfJson? = steps := by
  induction items generalizing index steps with
  | nil => exact Except.ok.inj h
  | cons v rest ih =>
    cases v
    case obj fields =>
      obtain ⟨later, hlater, h⟩ := bind_eq_ok.mp h
      obtain rfl := Except.ok.inj h
      rw [List.filterMap_cons, ih hlater]
      rfl
    all_goals cases h

theorem Chain.explicit_of_not_isChain {v : Json} (h : Chain.isChain v = false) :
    Chain.explicit (some v) = [] := by
  cases v <;> try rfl
  case obj => cases h
  case arr items =>
    refine List.filterMap_eq_nil_iff.mpr fun v hv => ?_
    have hobject := List.any_eq_false.mp h v hv
    cases v <;> first | rfl | exact absurd rfl hobject

theorem Config.explicit_of_chainOf {v : Json} {steps : List Step}
    (h : Config.chainOf v = .ok steps) : steps = Chain.explicit (some v) := by
  unfold Config.chainOf at h
  split at h
  next =>
    -- a chain is an object or a list, and every item of the list was an object
    cases v
    case null => exact (Except.ok.inj h).symm
    case obj => exact (Except.ok.inj h).symm
    case arr => exact (Chain.explicit_of_ofItems h).symm
    all_goals cases h
  next hchain =>
    rw [Chain.explicit_of_not_isChain (Bool.eq_false_iff.mpr hchain)]
    exact (Except.ok.inj h).symm

/-! ## Overrides -/

/-- The step that an entry gives to a format. -/
def Overrides.given (f : Format) (e : String × Json) : Option Step :=
  if f.token = Text.normalToken e.1 then Child.stepOfJson? e.2 else none

/-- The step of its own that a property gives to a format: the last one in key order. -/
def Overrides.own (property : Option Json) (f : Format) : Option Step :=
  match property with
  | some (.obj fields) => (PropertyMap.ofList fields).entries.reverse.findSome? (given f)
  | _ => none

theorem Overrides.get?_ofPropertyEntries {fields : List (String × Json)} {o o' : Overrides}
    (h : o.ofPropertyEntries fields = .ok o') (f : Format) :
    o'.get? f = (fields.reverse.findSome? (given f)).or (o.get? f) := by
  induction fields generalizing o with
  | nil =>
    obtain rfl := Except.ok.inj h
    rfl
  | cons e rest ih =>
    obtain ⟨key, v⟩ := e
    obtain ⟨g, hg, hrest⟩ := bind_eq_ok.mp h
    clear h
    cases v
    case obj fields =>
      -- the entry gives its step to the format of its key and to no other
      have hkey := Format.ofToken_eq_ok.mp hg
      have hgiven : given f (key, .obj fields) =
          if f = g then some (Step.ofFields fields) else none := by
        by_cases hf : f = g
        · subst hf
          rw [given, if_pos hkey, if_pos rfl]
          rfl
        · have hne : f.token ≠ Text.normalToken key := fun htoken =>
            hf (Format.token_injective (htoken.trans hkey.symm))
          rw [given, if_neg hne, if_neg hf]
      rw [ih hrest, List.reverse_cons, List.findSome?_append, Option.or_assoc,
        List.findSome?_singleton, hgiven, get?_set]
      by_cases hf : f = g <;> simp only [hf, if_true, if_false, Option.some_or, Option.none_or]
    all_goals cases hrest

theorem Overrides.get?_ofProperty {v : Json} {o : Overrides} (h : Overrides.ofProperty v = .ok o)
    (f : Format) : o.get? f = Overrides.own (some v) f := by
  cases v
  case null =>
    obtain rfl := Except.ok.inj h
    rfl
  case obj fields =>
    rw [get?_ofPropertyEntries h f]
    exact Option.or_none
  all_goals cases h

/-! ## Properties one by one -/

namespace Config

/-- What holds of the absent value, and of every value that is read, holds of a property. -/
theorem of_property {α : Type} {m : PropertyMap} {name : String} {absent a : α}
    {read : Json → Except Error α} {P : Option Json → α → Prop}
    (h : property m name absent read = .ok a) (habsent : P none absent)
    (hset : ∀ v, read v = .ok a → P (some v) a) : P (m.get? name) a := by
  unfold property at h
  cases hget : m.get? name with
  | none =>
    rw [hget] at h
    rw [← Except.ok.inj h]
    exact habsent
  | some v =>
    rw [hget] at h
    exact hset v h

theorem str_of_textOf {name s : String} {v : Json} (h : textOf name v = .ok s) : v = .str s := by
  cases v
  case str => exact congrArg Json.str (Except.ok.inj h)
  all_goals cases h

theorem str_of_map_textOf {name s : String} {v : Json}
    (h : some <$> textOf name v = .ok (some s)) : v = .str s := by
  cases v
  case str => exact congrArg Json.str (Option.some.inj (Except.ok.inj h))
  all_goals cases h

theorem some_of_nonBlank {cause : Cause} {x : Option String} {s : String}
    (h : nonBlank cause x = .ok s) : x = some s := by
  cases x with
  | none => cases h
  | some t =>
    unfold nonBlank at h
    dsimp only at h
    split at h
    · cases h
    · rw [Except.ok.inj h]

/-- A property that is required is a string. -/
theorem str_of_required {m : PropertyMap} {name s : String} {x : Option String} {cause : Cause}
    (hread : property m name none (fun v => some <$> textOf name v) = .ok x)
    (hset : nonBlank cause x = .ok s) : m.get? name = some (.str s) := by
  have hx := some_of_nonBlank hset
  refine of_property (P := fun v x => x = some s → v = some (.str s)) hread ?_ ?_ hx
  · intro habsent
    cases habsent
  · intro v hv hx
    rw [hx] at hv
    rw [str_of_map_textOf hv]

theorem asString?_of_optionalTextOf {name : String} {v : Json} {x : Option String}
    (h : optionalTextOf name v = .ok x) : x = v.asString? := by
  cases v
  case null => exact (Except.ok.inj h).symm
  case str => exact (Except.ok.inj h).symm
  all_goals cases h

theorem asBool?_of_flagOf {name : String} {v : Json} {b : Bool} (h : flagOf name v = .ok b) :
    b = v.asBool?.getD false := by
  cases v
  case null => exact (Except.ok.inj h).symm
  case bool => exact (Except.ok.inj h).symm
  all_goals cases h

theorem token_of_resourceTypeOf {name : String} {v : Json} {t : ResourceType}
    (h : resourceTypeOf name v = .ok t) : ∃ s, v = .str s ∧ t.token = Text.normalToken s := by
  obtain ⟨s, hs, ht⟩ := bind_eq_ok.mp h
  exact ⟨s, str_of_textOf hs, ResourceType.token_of_ofToken ht⟩

theorem isFlat_iff {k : String} {v : Json} : isFlat k v = true ↔
    Parameter.isParameter k = true ∧ ¬ (k = "transformation" ∧ Chain.isChain v = true) := by
  rw [isFlat, Bool.and_eq_true, Bool.not_eq_true', ← Bool.not_eq_true, Bool.and_eq_true,
    decide_eq_true_iff]

/-- The flat step has exactly the parameters of the configuration, apart from a chain-valued
`transformation`. -/
theorem get?_flatParams {m : PropertyMap} (hm : m.Canonical) (k : String) (v : Json) :
    (flatParams m).params.get? k = some v ↔ m.get? k = some v ∧ isFlat k v = true := by
  have hcanonical : ∀ e ∈ m.entries.filter (fun e => isFlat e.1 e.2),
      Parameter.canonicalName? e.1 = some e.1 := by
    intro e he
    obtain ⟨hmem, hflat⟩ := List.mem_filter.mp he
    have hname := hm e.1 e.2 ((PropertyMap.mem_entries_iff m e.1 e.2).mp hmem)
    exact canonicalName?_of_configName? hname (Bool.and_eq_true_iff.mp hflat).1
  have hsorted : InKeyOrder (m.entries.filter fun e => isFlat e.1 e.2) := m.sorted.filter _
  -- nothing is folded or dropped on the way, so the entries are the ones that were filtered
  have hentries : (flatParams m).params.entries = m.entries.filter fun e => isFlat e.1 e.2 := by
    rw [flatParams, Step.params_insertAll_of_canonical _ _ hcanonical]
    exact PropertyMap.entries_ofList hsorted
  rw [← PropertyMap.mem_entries_iff, hentries, List.mem_filter, PropertyMap.mem_entries_iff]

/-! ## The whole configuration -/

/-- What the parts of a typed configuration are read from: properties under canonical names, and
the steps of descriptors. -/
structure ReadFrom (m : PropertyMap) (descriptors : List Step) (c : Config) : Prop where
  cloudName : m.get? "cloud_name" = some (.str c.asset.cloudName)
  publicId : m.get? "public_id" = some (.str c.asset.publicId)
  resourceType : (m.get? "resource_type" = none ∧ c.asset.resourceType = .video) ∨
    ∃ s, m.get? "resource_type" = some (.str s) ∧
      c.asset.resourceType.token = Text.normalToken s
  format : c.asset.format = (m.get? "format").bind Json.asString?
  secure : c.secure = ((m.get? "secure").bind Json.asBool?).getD false
  formats : Format.Requested (m.get? "source_types") c.formats
  flat : ∀ k v, c.params.params.get? k = some v ↔
    m.get? k = some v ∧ Parameter.isParameter k = true ∧
      ¬ (k = "transformation" ∧ Chain.isChain v = true)
  chain : c.chain = Chain.explicit (m.get? "transformation") ++ descriptors
  overrides : ∀ f, c.overrides.get? f = Overrides.own (m.get? "source_transformation") f

/-- **A configuration that is read is read from its properties.** -/
theorem readFrom_of_ok {m : PropertyMap} (hm : m.Canonical) {descriptors : List Step} {c : Config}
    (h : ofProperties m descriptors = .ok c) : c.ReadFrom m descriptors := by
  unfold ofProperties at h
  -- every property was read, and the two required ones are set
  simp only [bind_eq_ok] at h
  obtain ⟨cloud, hcloud, format, hformat, poster, -, id, hid, kind, hkind, secure, hsecure,
    overrides, hoverrides, formats, hformats, chain, hchain, cloudName, hcloudName,
    publicId, hpublicId, h⟩ := h
  obtain rfl := Except.ok.inj h
  constructor
  case cloudName => exact str_of_required hcloud hcloudName
  case publicId => exact str_of_required hid hpublicId
  case resourceType =>
    refine of_property (P := fun v t => (v = none ∧ t = .video) ∨
      ∃ s, v = some (.str s) ∧ t.token = Text.normalToken s) hkind (.inl ⟨rfl, rfl⟩) fun v hv => ?_
    obtain ⟨s, rfl, htoken⟩ := token_of_resourceTypeOf hv
    exact .inr ⟨s, rfl, htoken⟩
  case format =>
    exact of_property (P := fun v x => x = v.bind Json.asString?) hformat rfl
      fun _ hv => asString?_of_optionalTextOf hv
  case secure =>
    exact of_property (P := fun v b => b = (v.bind Json.asBool?).getD false) hsecure rfl
      fun _ hv => asBool?_of_flagOf hv
  case formats =>
    exact of_property (P := Format.Requested) hformats rfl
      fun _ hv => Format.requested_of_listOfJson hv
  case flat =>
    intro k v
    rw [get?_flatParams hm k v, isFlat_iff]
  case chain =>
    have hexplicit : chain = Chain.explicit (m.get? "transformation") :=
      of_property (P := fun v steps => steps = Chain.explicit v) hchain rfl
        fun _ hv => explicit_of_chainOf hv
    rw [hexplicit]
  case overrides =>
    exact of_property (P := fun v o => ∀ f, o.get? f = Overrides.own v f) hoverrides
      (fun _ => rfl) fun _ hv => Overrides.get?_ofProperty hv

/-- The poster, the formats, the overrides and the explicit steps are each read from their own
property, whatever names the others are under. -/
theorem property_of_ok {m : PropertyMap} {descriptors : List Step} {c : Config}
    (h : ofProperties m descriptors = .ok c) :
    property m "poster" none Poster.ofProperty = .ok c.poster ∧
      property m "source_types" [] Format.listOfJson = .ok c.formats ∧
      property m "source_transformation" .empty Overrides.ofProperty = .ok c.overrides ∧
      ∃ explicit, property m "transformation" [] chainOf = .ok explicit ∧
        c.chain = explicit ++ descriptors := by
  unfold ofProperties at h
  simp only [bind_eq_ok] at h
  obtain ⟨cloud, -, format, -, poster, hposter, id, -, kind, -, secure, -, overrides, hoverrides,
    formats, hformats, chain, hchain, cloudName, -, publicId, -, h⟩ := h
  obtain rfl := Except.ok.inj h
  exact ⟨hposter, hformats, hoverrides, chain, hchain, rfl⟩

/-- The fallback text is no part of a typed configuration. -/
theorem ReadFrom.of_erase {m : PropertyMap} {descriptors : List Step} {c : Config}
    (h : c.ReadFrom (m.erase "fallback") descriptors) : c.ReadFrom m descriptors := by
  have hget : ∀ k, k ≠ "fallback" → (m.erase "fallback").get? k = m.get? k := fun k hk => by
    rw [PropertyMap.get?_erase, if_neg hk]
  constructor
  case cloudName => exact hget "cloud_name" (by decide) ▸ h.cloudName
  case publicId => exact hget "public_id" (by decide) ▸ h.publicId
  case resourceType => exact hget "resource_type" (by decide) ▸ h.resourceType
  case format => exact hget "format" (by decide) ▸ h.format
  case secure => exact hget "secure" (by decide) ▸ h.secure
  case formats => exact hget "source_types" (by decide) ▸ h.formats
  case chain => exact hget "transformation" (by decide) ▸ h.chain
  case overrides => exact hget "source_transformation" (by decide) ▸ h.overrides
  case flat =>
    intro k v
    rw [h.flat k v]
    by_cases hk : k = "fallback"
    · -- it is no parameter either
      have hnone : ¬ Parameter.isParameter "fallback" = true := by decide +kernel
      subst hk
      exact ⟨fun hflat => absurd hflat.2.1 hnone, fun hflat => absurd hflat.2.1 hnone⟩
    · rw [hget k hk]

end Config

theorem PropertyMap.Canonical.erase {m : PropertyMap} (h : m.Canonical) (name : String) :
    (m.erase name).Canonical := by
  intro k v hv
  rw [get?_erase] at hv
  split at hv
  · cases hv
  · exact h k v hv

/-- Properties resolve to the configuration that is read from the merged one, less the fallback
text. -/
theorem Props.ofProperties_of_resolve {p : Props} {ctx : Context} {r : Resolved}
    (h : p.resolve ctx = .ok r) :
    Config.ofProperties ((p.mergedConfig ctx).erase "fallback") (Child.allSteps p.children) =
      .ok r.config := by
  obtain ⟨c, hc, hr⟩ := bind_eq_ok.mp h
  obtain rfl := Except.ok.inj hr
  exact hc

/-- So does the snapshot of a rendering. -/
theorem Props.ofProperties_of_render {p : Props} {ctx : Context} {x : Rendered}
    (h : p.render ctx = .ok x) :
    Config.ofProperties ((p.mergedConfig ctx).erase "fallback") (Child.allSteps p.children) =
      .ok x.snapshot.config := by
  obtain ⟨r, hresolve, hcompiled⟩ := render_eq_ok.mp h
  obtain ⟨sources, -, poster, -, content, -, rfl⟩ := Rendered.ofResolved_eq_ok.mp hcompiled
  exact ofProperties_of_resolve hresolve

/-- **The snapshot of a rendering is read from the merged configuration** and the descriptors of
the children. -/
theorem Props.readFrom_of_render {p : Props} {layers : List PropertyMap} {x : Rendered}
    (h : p.render (.ofLayers layers) = .ok x) :
    x.snapshot.config.ReadFrom (p.mergedConfig (.ofLayers layers)) (Child.allSteps p.children) := by
  -- the fallback text is taken out before the configuration is read
  have hcanonical := (canonical_mergedConfig p layers).erase "fallback"
  exact (Config.readFrom_of_ok hcanonical (ofProperties_of_render h)).of_erase

end VideoDelivery
