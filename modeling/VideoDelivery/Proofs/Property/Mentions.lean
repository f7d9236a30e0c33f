import VideoDelivery.Proofs.Property.Spellings

/-!
# Mentions

A map mentions a name when one of its keys is a spelling of it, that is, when the two have one fold.
The value that the map gives the name is that of the key that is the name itself, or else that of
the first spelling in key order. Every recognition of names in the library comes down to this: a
name is a spelling of a canonical one exactly when it has its fold.

* `Parameter.canonicalName?_eq_some_iff`, `configName?_eq_some_iff` — what a canonical name is
  spelled like.
* `PropertyMap.counted_eq_mentioned?` — the value that counts is the one that is mentioned.
* `Classified.get?_config_eq_mentioned?` — of a configuration each name has the mentioned value.
-/

namespace VideoDelivery

/-! ## Canonical names -/

/-- The canonical names of transformation parameters. -/
def Parameter.names : List String := rawName :: all.map name

/-- The canonical names of configuration: controls and transformation parameters. -/
def configNames : List String :=
  controlNames ++ Parameter.rawName :: Parameter.all.map Parameter.name

namespace Parameter

theorem canonicalName?_names : ∀ k ∈ names, canonicalName? k = some k := by
  decide +kernel

theorem mem_names_of_canonicalName? {name k : String} (h : canonicalName? name = some k) :
    k ∈ names := by
  rw [names, List.mem_cons, List.mem_map]
  -- a parameter is the raw one or in the table
  unfold canonicalName? at h
  split at h
  · exact .inl (Option.some.inj h).symm
  · obtain ⟨p, hp, rfl⟩ := Option.map_eq_some_iff.mp h
    exact .inr ⟨p, List.mem_of_find?_eq_some hp, rfl⟩

/-- A name is a spelling of a parameter when both have one fold. -/
theorem canonicalName?_eq_some_iff {name k : String} (hk : k ∈ names) :
    canonicalName? name = some k ↔ Name.fold name = Name.fold k := by
  constructor
  · exact fun h => (fold_canonicalName h).symm
  · intro hfold
    rw [canonicalName?_congr hfold, canonicalName?_names k hk]

theorem canonicalName?_eq_none_iff {name : String} :
    canonicalName? name = none ↔ ∀ k ∈ names, Name.fold name ≠ Name.fold k := by
  constructor
  · intro h k hk hfold
    rw [(canonicalName?_eq_some_iff hk).mpr hfold] at h
    cases h
  · intro h
    cases hname : canonicalName? name with
    | none => rfl
    | some k =>
      have hfold : Name.fold name = Name.fold k := (fold_canonicalName hname).symm
      exact absurd hfold (h k (mem_names_of_canonicalName? hname))

end Parameter

theorem configName?_configNames : ∀ k ∈ configNames, configName? k = some k := by
  intro k hk
  rcases List.mem_append.mp hk with hcontrol | hparam
  · exact configName?_controls k hcontrol
  · have hname := Parameter.canonicalName?_names k hparam
    cases hlookup : Name.lookup controlNames k with
    | none => rw [configName?, hlookup, Option.none_or, hname]
    | some c =>
      -- a control that it spells would be a parameter too
      have hcontrol := canonicalName?_controls c (Name.mem_of_lookup hlookup)
      rw [Parameter.canonicalName?_congr (Name.fold_eq_of_lookup hlookup), hname] at hcontrol
      cases hcontrol

theorem mem_configNames_of_configName? {name k : String} (h : configName? name = some k) :
    k ∈ configNames := by
  rw [configNames, List.mem_append]
  rcases Option.or_eq_some_iff.mp h with hcontrol | ⟨-, hparam⟩
  · exact .inl (Name.mem_of_lookup hcontrol)
  · exact .inr (Parameter.mem_names_of_canonicalName? hparam)

theorem PropertyMap.Canonical.get?_eq_none {m : PropertyMap} (h : m.Canonical) {k : String}
    (hk : k ∉ configNames) : m.get? k = none := by
  cases hget : m.get? k with
  | none => rfl
  | some v => exact absurd (mem_configNames_of_configName? (h k v hget)) hk

theorem fold_of_configName? {name k : String} (h : configName? name = some k) :
    Name.fold name = Name.fold k := by
  rcases Option.or_eq_some_iff.mp h with hcontrol | ⟨-, hparam⟩
  · exact (Name.fold_eq_of_lookup hcontrol).symm
  · exact (Parameter.fold_canonicalName hparam).symm

/-- A name is a spelling of a canonical one when both have one fold. -/
theorem configName?_eq_some_iff {name k : String} (hk : k ∈ configNames) :
    configName? name = some k ↔ Name.fold name = Name.fold k := by
  constructor
  · exact fold_of_configName?
  · intro hfold
    rw [configName?_congr hfold, configName?_configNames k hk]

/-! ## Spellings -/

theorem lookup_spellings {canonical? : String → Option String} {k : String}
    (hk : canonical? k = some k) (fields : List (String × Json)) :
    (spellings canonical? k fields).lookup k = fields.lookup k := by
  induction fields with
  | nil => rfl
  | cons e rest ih =>
    obtain ⟨name, v⟩ := e
    by_cases hspells : canonical? name = some k
    · rw [spellings_cons_of_eq hspells, PropertyMap.lookup_field, PropertyMap.lookup_field, ih]
    · -- another name has been left out
      have hne : k ≠ name := by
        rintro rfl
        exact hspells hk
      rw [spellings_cons_of_ne hspells, PropertyMap.lookup_field, if_neg hne, ih]

/-- The first spelling of a name is the first field with its fold. -/
theorem head?_spellings {canonical? : String → Option String} {k : String}
    (h : ∀ name, canonical? name = some k ↔ Name.fold name = Name.fold k)
    (fields : List (String × Json)) : (spellings canonical? k fields).head? =
      fields.find? fun e => Name.fold e.1 = Name.fold k := by
  rw [spellings, List.head?_filter]
  congr 1
  funext e
  rw [decide_eq_decide]
  exact h e.1

/-! ## Mentions -/

namespace PropertyMap

variable {m : PropertyMap} {k : String}

theorem mem_keys_iff : k ∈ m.keys ↔ (m.get? k).isSome = true := by
  rw [keys, List.mem_map, Option.isSome_iff_exists]
  constructor
  · rintro ⟨⟨name, v⟩, hmem, rfl⟩
    exact ⟨v, (mem_entries_iff m name v).mp hmem⟩
  · rintro ⟨v, hv⟩
    exact ⟨(k, v), (mem_entries_iff m k v).mpr hv, rfl⟩

/-- Some key of the map is a spelling of the name. -/
def Mentions (m : PropertyMap) (name : String) : Prop :=
  ∃ spelled ∈ m.keys, Name.fold spelled = Name.fold name

/-- The value that a map gives a name in whatever spelling: that of the name itself, or else that of
the first spelling in key order. -/
def mentioned? (m : PropertyMap) (name : String) : Option Json :=
  (m.get? name).or ((m.entries.find? fun e => Name.fold e.1 = Name.fold name).map Prod.snd)

theorem isSome_mentioned?_iff : (m.mentioned? k).isSome = true ↔ m.Mentions k := by
  rw [mentioned?, Option.isSome_or, Bool.or_eq_true, Option.isSome_map, List.find?_isSome,
    ← mem_keys_iff]
  simp only [decide_eq_true_iff, Mentions, keys, List.mem_map, exists_exists_and_eq_and]
  constructor
  · rintro (⟨e, he, rfl⟩ | h)
    · exact ⟨e, he, rfl⟩
    · exact h
  · exact .inr

theorem exists_of_mentioned? {k : String} {v : Json} (h : m.mentioned? k = some v) :
    ∃ e ∈ m.entries, Name.fold e.1 = Name.fold k ∧ e.2 = v := by
  rcases Option.or_eq_some_iff.mp h with hget | ⟨-, hfirst⟩
  · exact ⟨(k, v), (m.mem_entries_iff k v).mpr hget, rfl, rfl⟩
  · obtain ⟨e, he, hv⟩ := Option.map_eq_some_iff.mp hfirst
    exact ⟨e, List.mem_of_find?_eq_some he, by simpa using List.find?_some he, hv⟩

/-- At most one key of the map is a spelling of the name. -/
def SpelledOnce (m : PropertyMap) (name : String) : Prop :=
  ∀ e ∈ m.entries, ∀ f ∈ m.entries,
    Name.fold e.1 = Name.fold name → Name.fold f.1 = Name.fold name → e = f

/-- The value that is mentioned is then that of any spelling. -/
theorem SpelledOnce.mentioned?_eq (h : m.SpelledOnce n) {e : String × Json} (he : e ∈ m.entries)
    (hfold : Name.fold e.1 = Name.fold n) : m.mentioned? n = some e.2 := by
  have hmentions : m.Mentions n := ⟨e.1, List.mem_map_of_mem he, hfold⟩
  obtain ⟨v, hv⟩ := Option.isSome_iff_exists.mp (isSome_mentioned?_iff.mpr hmentions)
  obtain ⟨f, hf, hspells, rfl⟩ := exists_of_mentioned? hv
  rw [hv, h e he f hf hfold hspells]

/-- Where no other key spells the name, its value is the mentioned one. -/
theorem mentioned?_eq_get? (h : ∀ e ∈ m.entries, Name.fold e.1 = Name.fold k → e.1 = k) :
    m.mentioned? k = m.get? k := by
  rw [mentioned?]
  cases hget : m.get? k with
  | some v => rfl
  | none =>
    -- a spelling would be the name itself
    rw [Option.none_or, Option.map_eq_none_iff, List.find?_eq_none]
    intro e he hfold
    have hvalue := (m.mem_entries_iff e.1 e.2).mp he
    rw [h e he (of_decide_eq_true hfold), hget] at hvalue
    cases hvalue

/-- Where the spellings of a name are all the names with its fold, the value that counts is the
mentioned one. -/
theorem counted_eq_mentioned? {canonical? : String → Option String}
    (h : ∀ name, canonical? name = some k ↔ Name.fold name = Name.fold k) (m : PropertyMap) :
    counted k (spellings canonical? k m.entries) = m.mentioned? k := by
  rw [counted, lookup_spellings ((h k).mpr rfl), head?_spellings h]
  rfl

/-- Where a name is its only spelling, its value is the one that counts. -/
theorem counted_eq_get? {canonical? : String → Option String}
    (h : ∀ name, canonical? name = some k ↔ name = k) (m : PropertyMap) :
    counted k (spellings canonical? k m.entries) = m.get? k := by
  rw [counted, lookup_spellings ((h k).mpr rfl)]
  show (m.get? k).or _ = m.get? k
  cases hget : m.get? k with
  | some v => rfl
  | none =>
    rw [Option.none_or, Option.map_eq_none_iff, List.head?_eq_none_iff, spellings,
      List.filter_eq_nil_iff]
    intro e he hspells
    have hvalue := (m.mem_entries_iff e.1 e.2).mp he
    rw [(h e.1).mp (of_decide_eq_true hspells), hget] at hvalue
    cases hvalue

/-- Maps that give all spellings of a name the same values mention it with the same value. -/
theorem mentioned?_congr {a b : PropertyMap} {k : String}
    (h : ∀ name, Name.fold name = Name.fold k → a.get? name = b.get? name) :
    a.mentioned? k = b.mentioned? k := by
  let canonical? : String → Option String := fun name =>
    if Name.fold name = Name.fold k then some k else none
  have hspells : ∀ name, canonical? name = some k ↔ Name.fold name = Name.fold k := by
    simp [canonical?]
  rw [← counted_eq_mentioned? hspells, ← counted_eq_mentioned? hspells]
  congr 1
  exact spellings_congr fun name hname => h name ((hspells name).mp hname)

end PropertyMap

/-- Within one map the canonical spelling counts, and otherwise the first one in key order. -/
theorem Classified.get?_config_eq_mentioned? {k : String} (hk : k ∈ configNames)
    (m : PropertyMap) : (ofMap m).config.get? k = m.mentioned? k := by
  rw [get?_config, PropertyMap.counted_eq_mentioned? fun _ => configName?_eq_some_iff hk]

end VideoDelivery
