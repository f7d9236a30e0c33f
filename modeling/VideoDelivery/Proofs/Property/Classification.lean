import VideoDelivery.Proofs.Property.Mentions

/-!
# The parts of a property map

Classification parts a property map in two: configuration, and what is passed through to the media
element. Every name has its place in one of the parts. A configuration name or a media attribute is
there under its canonical spelling if the map mentions it, with the mentioned value; a name that is
neither in any spelling is passed through as it is, and nothing else is. Since no canonical name is
a spelling of another one, the parts put together again are parted as before.

* `attributeName?_eq_some_iff_of_attribute`, `attributeName?_eq_some_iff_of_unrecognised` — what is
  passed through under a name.
* `Classified.mentioned?_rejoined` — in the parts put together each name has one spelling.
* `Classified.parted_ofMap` — **classification parts a map without loss**.
-/

namespace VideoDelivery

/-! ## Recognised names -/

/-- The name is not configuration in any spelling, and no media attribute either. -/
def Unrecognised (name : String) : Prop :=
  ∀ k ∈ configNames ++ mediaAttributes, Name.fold name ≠ Name.fold k

theorem configName?_attributes : ∀ k ∈ mediaAttributes, configName? k = none := by
  decide +kernel

theorem mediaAttribute?_attributes : ∀ k ∈ mediaAttributes, mediaAttribute? k = some k := by
  decide +kernel

/-- A name is a spelling of a media attribute when both have one fold. -/
theorem mediaAttribute?_eq_some_iff {name k : String} (hk : k ∈ mediaAttributes) :
    mediaAttribute? name = some k ↔ Name.fold name = Name.fold k := by
  constructor
  · exact fun h => (Name.fold_eq_of_lookup h).symm
  · intro hfold
    rw [mediaAttribute?_congr hfold, mediaAttribute?_attributes k hk]

theorem unrecognised_iff {name : String} :
    Unrecognised name ↔ configName? name = none ∧ mediaAttribute? name = none := by
  constructor
  · intro h
    constructor
    · cases hconfig : configName? name with
      | none => rfl
      | some k =>
        have hk := List.mem_append_left mediaAttributes (mem_configNames_of_configName? hconfig)
        exact absurd (fold_of_configName? hconfig) (h k hk)
    · cases hmedia : mediaAttribute? name with
      | none => rfl
      | some k =>
        have hk := List.mem_append_right configNames (Name.mem_of_lookup hmedia)
        exact absurd (Name.fold_eq_of_lookup hmedia).symm (h k hk)
  · rintro ⟨hconfig, hmedia⟩ k hk hfold
    rcases List.mem_append.mp hk with hk | hk
    · rw [(configName?_eq_some_iff hk).mpr hfold] at hconfig
      cases hconfig
    · rw [(mediaAttribute?_eq_some_iff hk).mpr hfold] at hmedia
      cases hmedia

/-- A media attribute is no configuration. -/
theorem notMem_configNames_of_attribute {k : String} (hk : k ∈ mediaAttributes) :
    k ∉ configNames := by
  intro hconfig
  have hname := configName?_configNames k hconfig
  rw [configName?_attributes k hk] at hname
  cases hname

theorem Unrecognised.notMem_configNames {k : String} (h : Unrecognised k) : k ∉ configNames :=
  fun hk => h k (List.mem_append_left _ hk) rfl

/-- No canonical name is a spelling of another one. -/
theorem eq_of_fold_eq {j k : String} (hj : j ∈ configNames ++ mediaAttributes)
    (hk : k ∈ configNames ++ mediaAttributes) (hfold : Name.fold j = Name.fold k) : j = k := by
  rcases List.mem_append.mp hk with hk | hk
  · have hname := (configName?_eq_some_iff hk).mpr hfold
    rcases List.mem_append.mp hj with hj | hj
    · rw [configName?_configNames j hj] at hname
      exact Option.some.inj hname
    · -- a media attribute is no configuration
      rw [configName?_attributes j hj] at hname
      cases hname
  · have hname := (mediaAttribute?_eq_some_iff hk).mpr hfold
    rcases List.mem_append.mp hj with hj | hj
    · have hother := (configName?_eq_some_iff hj).mpr hfold.symm
      rw [configName?_attributes k hk] at hother
      cases hother
    · rw [mediaAttribute?_attributes j hj] at hname
      exact Option.some.inj hname

/-! ## What is passed through -/

/-- Under a media attribute its spellings are passed through. -/
theorem attributeName?_eq_some_iff_of_attribute {name k : String} (hk : k ∈ mediaAttributes) :
    attributeName? name = some k ↔ Name.fold name = Name.fold k := by
  rw [attributeName?_eq_some_iff]
  constructor
  · rintro ⟨-, hmedia | ⟨-, rfl⟩⟩
    · exact (mediaAttribute?_eq_some_iff hk).mp hmedia
    · rfl
  · intro hfold
    rw [configName?_congr hfold]
    exact ⟨configName?_attributes k hk, .inl ((mediaAttribute?_eq_some_iff hk).mpr hfold)⟩

/-- Under an unrecognised name that name alone is passed through. -/
theorem attributeName?_eq_some_iff_of_unrecognised {name k : String} (hk : Unrecognised k) :
    attributeName? name = some k ↔ name = k := by
  rw [attributeName?_eq_some_iff]
  constructor
  · rintro ⟨-, hmedia | ⟨-, hname⟩⟩
    · -- what a spelling stands for is recognised
      have hmem := List.mem_append_right configNames (Name.mem_of_lookup hmedia)
      exact absurd rfl (hk k hmem)
    · exact hname
  · rintro rfl
    obtain ⟨hconfig, hmedia⟩ := unrecognised_iff.mp hk
    exact ⟨hconfig, .inr ⟨hmedia, rfl⟩⟩

/-- Only canonical media attributes and unrecognised names are passed through. -/
theorem mem_or_unrecognised_of_attributeName? {name k : String} (h : attributeName? name = some k) :
    k ∈ mediaAttributes ∨ Unrecognised k := by
  obtain ⟨hconfig, hmedia | ⟨hmedia, rfl⟩⟩ := attributeName?_eq_some_iff.mp h
  · exact .inl (Name.mem_of_lookup hmedia)
  · exact .inr (unrecognised_iff.mpr ⟨hconfig, hmedia⟩)

namespace Classified

theorem get?_passthrough_eq_mentioned? {k : String} (hk : k ∈ mediaAttributes) (m : PropertyMap) :
    (ofMap m).passthrough.get? k = m.mentioned? k := by
  rw [get?_passthrough,
    PropertyMap.counted_eq_mentioned? fun _ => attributeName?_eq_some_iff_of_attribute hk]

theorem get?_passthrough_of_unrecognised {k : String} (hk : Unrecognised k) (m : PropertyMap) :
    (ofMap m).passthrough.get? k = m.get? k := by
  rw [get?_passthrough,
    PropertyMap.counted_eq_get? fun _ => attributeName?_eq_some_iff_of_unrecognised hk]

theorem mem_configNames_of_mem_keys {m : PropertyMap} {k : String}
    (h : k ∈ (ofMap m).config.keys) : k ∈ configNames := by
  obtain ⟨v, hv⟩ := Option.isSome_iff_exists.mp (PropertyMap.mem_keys_iff.mp h)
  exact mem_configNames_of_configName? (canonical_ofMap m k v hv)

theorem mem_or_unrecognised_of_mem_keys {m : PropertyMap} {k : String}
    (h : k ∈ (ofMap m).passthrough.keys) : k ∈ mediaAttributes ∨ Unrecognised k := by
  obtain ⟨v, hv⟩ := Option.isSome_iff_exists.mp (PropertyMap.mem_keys_iff.mp h)
  rw [get?_passthrough, counted] at hv
  -- some field is passed through under the name
  cases hspelled : spellings attributeName? k m.entries with
  | nil =>
    rw [hspelled] at hv
    cases hv
  | cons e rest =>
    have he : e ∈ spellings attributeName? k m.entries := hspelled ▸ List.mem_cons_self ..
    exact mem_or_unrecognised_of_attributeName? (of_decide_eq_true (List.mem_filter.mp he).2)

theorem notMem_configNames_of_mem_keys {m : PropertyMap} {k : String}
    (h : k ∈ (ofMap m).passthrough.keys) : k ∉ configNames := by
  rcases mem_or_unrecognised_of_mem_keys h with hmedia | hunrecognised
  · exact notMem_configNames_of_attribute hmedia
  · exact hunrecognised.notMem_configNames

/-! ## The parts put together -/

/-- The two parts as one map. -/
def rejoined (c : Classified) : PropertyMap := c.config.overlay c.passthrough

variable {m : PropertyMap}

theorem get?_rejoined (c : Classified) (k : String) :
    c.rejoined.get? k = (c.passthrough.get? k).or (c.config.get? k) :=
  PropertyMap.get?_overlay _ _ k

theorem get?_rejoined_of_config {k : String} (hk : k ∈ configNames) :
    (ofMap m).rejoined.get? k = (ofMap m).config.get? k := by
  -- configuration is not passed through
  have hnone : (ofMap m).passthrough.get? k = none :=
    Option.not_isSome_iff_eq_none.mp fun hsome =>
      notMem_configNames_of_mem_keys (PropertyMap.mem_keys_iff.mpr hsome) hk
  rw [get?_rejoined, hnone, Option.none_or]

theorem get?_rejoined_of_passthrough {k : String} (hk : k ∉ configNames) :
    (ofMap m).rejoined.get? k = (ofMap m).passthrough.get? k := by
  rw [get?_rejoined, (canonical_ofMap m).get?_eq_none hk, Option.or_none]

/-- A key of the parts is a canonical name, or not recognised. -/
theorem key_of_mem_rejoined {e : String × Json} (he : e ∈ (ofMap m).rejoined.entries) :
    e.1 ∈ configNames ++ mediaAttributes ∨ Unrecognised e.1 := by
  have hget := (PropertyMap.mem_entries_iff _ e.1 e.2).mp he
  rw [get?_rejoined] at hget
  rcases Option.or_eq_some_iff.mp hget with hpassed | ⟨-, hconfig⟩
  · have hmem := PropertyMap.mem_keys_iff.mpr (Option.isSome_of_eq_some hpassed)
    exact (mem_or_unrecognised_of_mem_keys hmem).imp_left (List.mem_append_right _)
  · have hmem := PropertyMap.mem_keys_iff.mpr (Option.isSome_of_eq_some hconfig)
    exact .inl (List.mem_append_left _ (mem_configNames_of_mem_keys hmem))

/-- **In the parts put together each name has one spelling**, so it has the value it is mentioned
with. -/
theorem mentioned?_rejoined {k : String} (hk : k ∈ configNames ++ mediaAttributes) :
    (ofMap m).rejoined.mentioned? k = (ofMap m).rejoined.get? k := by
  refine PropertyMap.mentioned?_eq_get? fun e he hfold => ?_
  rcases key_of_mem_rejoined he with hcanonical | hunrecognised
  · exact eq_of_fold_eq hcanonical hk hfold
  · exact absurd hfold (hunrecognised k hk)

theorem config_rejoined : (ofMap (ofMap m).rejoined).config = (ofMap m).config := by
  apply PropertyMap.ext_get?
  intro k
  by_cases hk : k ∈ configNames
  · rw [get?_config_eq_mentioned? hk, mentioned?_rejoined (List.mem_append_left _ hk),
      get?_rejoined_of_config hk]
  · rw [(canonical_ofMap _).get?_eq_none hk, (canonical_ofMap _).get?_eq_none hk]

theorem passthrough_rejoined : (ofMap (ofMap m).rejoined).passthrough = (ofMap m).passthrough := by
  apply PropertyMap.ext_get?
  intro k
  have hnone : ∀ {m : PropertyMap}, ¬ (k ∈ mediaAttributes ∨ Unrecognised k) →
      (ofMap m).passthrough.get? k = none := fun hk =>
    Option.not_isSome_iff_eq_none.mp fun hsome =>
      hk (mem_or_unrecognised_of_mem_keys (PropertyMap.mem_keys_iff.mpr hsome))
  by_cases hmedia : k ∈ mediaAttributes
  · rw [get?_passthrough_eq_mentioned? hmedia, mentioned?_rejoined (List.mem_append_right _ hmedia),
      get?_rejoined_of_passthrough (notMem_configNames_of_attribute hmedia)]
  by_cases hunrecognised : Unrecognised k
  · rw [get?_passthrough_of_unrecognised hunrecognised,
      get?_rejoined_of_passthrough hunrecognised.notMem_configNames]
  · have hk : ¬ (k ∈ mediaAttributes ∨ Unrecognised k) := not_or.mpr ⟨hmedia, hunrecognised⟩
    rw [hnone hk, hnone hk]

theorem eq_of_parts {c d : Classified} (hconfig : c.config = d.config)
    (hpassthrough : c.passthrough = d.passthrough) : c = d := by
  cases c
  cases d
  cases hconfig
  cases hpassthrough
  rfl

/-! ## The whole -/

/-- What the parts of a map are. -/
structure Parted (c : Classified) (m : PropertyMap) : Prop where
  /-- Configuration is under canonical names. -/
  configKeys : ∀ k ∈ c.config.keys, k ∈ configNames
  /-- What is passed through is a canonical media attribute, or not recognised. -/
  passthroughKeys : ∀ k ∈ c.passthrough.keys, k ∈ mediaAttributes ∨ Unrecognised k
  /-- A canonical name is there when the map mentions it, and has the mentioned value. -/
  configMentioned : ∀ k ∈ configNames, k ∈ c.config.keys ↔ m.Mentions k
  configValue : ∀ k ∈ configNames, c.config.get? k = m.mentioned? k
  attributeMentioned : ∀ k ∈ mediaAttributes, k ∈ c.passthrough.keys ↔ m.Mentions k
  attributeValue : ∀ k ∈ mediaAttributes, c.passthrough.get? k = m.mentioned? k
  /-- A name that is not recognised is passed through as it is. -/
  unrecognised : ∀ k, Unrecognised k → c.passthrough.get? k = m.get? k
  /-- No name is in both parts, and put together they are parted as before. -/
  disjoint : c.config.keys.Disjoint c.passthrough.keys
  again : ofMap c.rejoined = c

/-- **Classification parts a map without loss**, under one canonical spelling for each name that is
recognised. -/
theorem parted_ofMap (m : PropertyMap) : (ofMap m).Parted m where
  configKeys _ := mem_configNames_of_mem_keys
  passthroughKeys _ := mem_or_unrecognised_of_mem_keys
  configMentioned k hk := by
    rw [PropertyMap.mem_keys_iff, get?_config_eq_mentioned? hk, PropertyMap.isSome_mentioned?_iff]
  configValue k hk := get?_config_eq_mentioned? hk m
  attributeMentioned k hk := by
    rw [PropertyMap.mem_keys_iff, get?_passthrough_eq_mentioned? hk,
      PropertyMap.isSome_mentioned?_iff]
  attributeValue k hk := get?_passthrough_eq_mentioned? hk m
  unrecognised k hk := get?_passthrough_of_unrecognised hk m
  disjoint _ hconfig hpassed :=
    notMem_configNames_of_mem_keys hpassed (mem_configNames_of_mem_keys hconfig)
  again := eq_of_parts config_rejoined passthrough_rejoined

end Classified

end VideoDelivery
