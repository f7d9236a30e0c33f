import VideoDelivery.Proofs.Property.Classification
import VideoDelivery.Proofs.Transformation.CodeOrder

/-!
# How names are recognised

Parameters, configuration and media attributes are recognised by three functions, each with a table
of canonical names. Each of them finds a canonical name exactly for the texts with the fold of that
name (`Parameter.canonicalName?_iff`, `configName?_iff`, `mediaAttribute?_iff`), so none of the
names in a table is hidden by another one. Everything that is said here of one of them is said of
all three from that alone. Since folding keeps all characters but underscores, and canonical names
are made of letters, nothing with any other character in it is ever recognised.

* `recognisesByFold_of_iff` — **what holds of a function that goes by the fold**.
* `unrecognised_of_char` — **a name with any other character is not recognised**.
* `vocabulary_sound` — the three functions, and what the rest of the library makes of names.
-/

namespace VideoDelivery

/-! ## Letters -/

theorem isAlpha_iff {c : Char} : c.isAlpha = true ↔
    65 ≤ c.toNat ∧ c.toNat ≤ 90 ∨ 97 ≤ c.toNat ∧ c.toNat ≤ 122 := by
  have hupper : c.isUpper = true ↔ 'A'.val ≤ c.val ∧ c.val ≤ 'Z'.val := decide_eq_true_iff
  have hlower : c.isLower = true ↔ 'a'.val ≤ c.val ∧ c.val ≤ 'z'.val := by
    show (_ && _) = true ↔ _
    rw [Bool.and_eq_true, decide_eq_true_iff, decide_eq_true_iff]
  show (c.isUpper || c.isLower) = true ↔ _
  rw [Bool.or_eq_true, hupper, hlower]
  exact Iff.rfl

theorem isAlpha_of_toLower {c : Char} (h : c.toLower.isAlpha = true) : c.isAlpha = true := by
  rw [isAlpha_iff, Text.toNat_toLower] at h
  rw [isAlpha_iff]
  split at h <;> omega

namespace Name

/-- What a character is written with: a letter of ASCII, or the underscore. -/
def IsWord (c : Char) : Prop := c.isAlpha = true ∨ c = '_'

theorem toLower_mem_fold {name : String} {c : Char} (hc : c ∈ name.toList) (hne : c ≠ '_') :
    c.toLower ∈ (fold name).toList := by
  rw [fold, String.toList_ofList]
  exact List.mem_map_of_mem (List.mem_filter.mpr ⟨hc, decide_eq_true hne⟩)

/-- A name is written like what it folds to. -/
theorem isWord_of_fold {name : String} (h : ∀ c ∈ (fold name).toList, c.isAlpha = true) :
    ∀ c ∈ name.toList, IsWord c := by
  intro c hc
  by_cases hne : c = '_'
  · exact .inr hne
  · exact .inl (isAlpha_of_toLower (h _ (toLower_mem_fold hc hne)))

end Name

theorem isAlpha_fold : ∀ k ∈ configNames ++ mediaAttributes,
    ∀ c ∈ (Name.fold k).toList, c.isAlpha = true := by
  -- a check of the characters in the tables
  have htable : ∀ k ∈ configNames ++ mediaAttributes,
      (Name.fold k).toList.all Char.isAlpha = true := by decide +kernel
  exact fun k hk => List.all_eq_true.mp (htable k hk)

/-! ## Going by the fold -/

/-- What holds of a function that recognises the names of a table by their fold. -/
structure RecognisesByFold (table : List String) (canonical? : String → Option String) : Prop where
  /-- A text is recognised as a name of the table exactly if it has the fold of that name. -/
  recognised : ∀ name k, canonical? name = some k ↔ k ∈ table ∧ Name.fold name = Name.fold k
  /-- Every name of the table is its own canonical name. -/
  own : ∀ k ∈ table, canonical? k = some k
  /-- No two names of the table have one fold. -/
  distinct : (table.map Name.fold).Nodup
  /-- Texts with one fold have one answer. -/
  folded : ∀ a b, Name.fold a = Name.fold b → canonical? a = canonical? b
  /-- Texts with different folds have different canonical names. -/
  apart : ∀ a b k, canonical? a = some k → canonical? b = some k → Name.fold a = Name.fold b
  /-- What is recognised is written in letters and underscores. -/
  word : ∀ name k, canonical? name = some k → ∀ c ∈ name.toList, Name.IsWord c

theorem nodup_names : (configNames ++ mediaAttributes).Nodup := by
  -- a check of the names in the tables, not of their folds
  decide +kernel

/-- **What holds of a function that goes by the fold**, whatever its table is. -/
theorem recognisesByFold_of_iff {canonical? : String → Option String} {table : List String}
    (h : ∀ {name k}, canonical? name = some k ↔ k ∈ table ∧ Name.fold name = Name.fold k)
    (htable : table.Sublist (configNames ++ mediaAttributes)) :
    RecognisesByFold table canonical? where
  recognised _ _ := h
  own k hk := h.mpr ⟨hk, rfl⟩
  distinct := by
    refine List.Nodup.map_on ?_ (nodup_names.sublist htable)
    intro k hk l hl hfold
    -- a name with the fold of another would have two canonical names
    have hown : canonical? k = some k := h.mpr ⟨hk, rfl⟩
    have hother : canonical? k = some l := h.mpr ⟨hl, hfold⟩
    exact Option.some.inj (hown.symm.trans hother)
  folded a b hfold := by
    apply Option.ext
    intro k
    rw [h, h, hfold]
  apart a b k ha hb := (h.mp ha).2.trans (h.mp hb).2.symm
  word name k hname := by
    obtain ⟨hk, hfold⟩ := h.mp hname
    apply Name.isWord_of_fold
    rw [hfold]
    exact isAlpha_fold k (htable.subset hk)

theorem Parameter.canonicalName?_iff {name k : String} :
    canonicalName? name = some k ↔ k ∈ names ∧ Name.fold name = Name.fold k := by
  constructor
  · exact fun h => ⟨mem_names_of_canonicalName? h, (fold_canonicalName h).symm⟩
  · exact fun ⟨hk, hfold⟩ => (canonicalName?_eq_some_iff hk).mpr hfold

theorem configName?_iff {name k : String} :
    configName? name = some k ↔ k ∈ configNames ∧ Name.fold name = Name.fold k := by
  constructor
  · exact fun h => ⟨mem_configNames_of_configName? h, fold_of_configName? h⟩
  · exact fun ⟨hk, hfold⟩ => (configName?_eq_some_iff hk).mpr hfold

theorem mediaAttribute?_iff {name k : String} :
    mediaAttribute? name = some k ↔ k ∈ mediaAttributes ∧ Name.fold name = Name.fold k := by
  constructor
  · exact fun h => ⟨Name.mem_of_lookup h, (Name.fold_eq_of_lookup h).symm⟩
  · exact fun ⟨hk, hfold⟩ => (mediaAttribute?_eq_some_iff hk).mpr hfold

theorem recognisesByFold_parameter : RecognisesByFold Parameter.names Parameter.canonicalName? :=
  recognisesByFold_of_iff Parameter.canonicalName?_iff <|
    (List.sublist_append_right controlNames Parameter.names).trans
      (List.sublist_append_left configNames mediaAttributes)

theorem recognisesByFold_config : RecognisesByFold configNames configName? :=
  recognisesByFold_of_iff configName?_iff (List.sublist_append_left _ _)

theorem recognisesByFold_attribute : RecognisesByFold mediaAttributes mediaAttribute? :=
  recognisesByFold_of_iff mediaAttribute?_iff (List.sublist_append_right _ _)

/-- A coded parameter is found exactly in the spellings of its name. -/
theorem Parameter.find?_iff {name : String} {p : Parameter} :
    find? name = some p ↔ p ∈ all ∧ Name.fold name = Name.fold p.name := by
  constructor
  · intro h
    have hfold : Name.fold p.name = Name.fold name := by simpa using List.find?_some h
    exact ⟨List.mem_of_find?_eq_some h, hfold.symm⟩
  · exact fun ⟨hp, hfold⟩ => find?_eq_some hp hfold

/-! ## Names apart -/

/-- No name is configuration and a media attribute too. -/
theorem configName?_or_mediaAttribute? (name : String) :
    configName? name = none ∨ mediaAttribute? name = none := by
  cases hmedia : mediaAttribute? name with
  | none => exact .inr rfl
  | some k =>
    obtain ⟨hk, hfold⟩ := mediaAttribute?_iff.mp hmedia
    exact .inl ((configName?_congr hfold).trans (configName?_attributes k hk))

/-- No name is a control and a parameter too. -/
theorem control_or_parameter (name : String) :
    Name.lookup controlNames name = none ∨ Parameter.canonicalName? name = none := by
  cases hcontrol : Name.lookup controlNames name with
  | none => exact .inl rfl
  | some k =>
    have hparameter := canonicalName?_controls k (Name.mem_of_lookup hcontrol)
    rw [Parameter.canonicalName?_congr (Name.fold_eq_of_lookup hcontrol)] at hparameter
    exact .inr hparameter

/-- One code is that of one parameter, in whatever spellings this is given. -/
theorem Token.fold_eq_of_code {a b code text text' : String} {v w : Json}
    (ha : ofParameter? a v = some (.coded code text))
    (hb : ofParameter? b w = some (.coded code text')) : Name.fold a = Name.fold b := by
  obtain ⟨p, hp, hfold, hcode⟩ := exists_code (c := (code, text)) ha
  obtain ⟨q, hq, hfold', hcode'⟩ := exists_code (c := (code, text')) hb
  obtain rfl := Parameter.code_injective p hp q hq (hcode.symm.trans hcode')
  exact hfold.trans hfold'.symm

/-- **A name with any character but letters and underscores is not recognised.** -/
theorem unrecognised_of_char {name : String} {c : Char} (hc : c ∈ name.toList)
    (hother : ¬ Name.IsWord c) : Unrecognised name := by
  rw [unrecognised_iff]
  constructor
  · cases h : configName? name with
    | none => rfl
    | some k => exact absurd (recognisesByFold_config.word name k h c hc) hother
  · cases h : mediaAttribute? name with
    | none => rfl
    | some k => exact absurd (recognisesByFold_attribute.word name k h c hc) hother

theorem Unrecognised.canonicalName?_eq_none {name : String} (h : Unrecognised name) :
    Parameter.canonicalName? name = none :=
  Parameter.canonicalName?_eq_none_iff.mpr fun k hk =>
    h k (List.mem_append_left _ (List.mem_append_right _ hk))

/-! ## Insertion into steps -/

namespace Step

/-- A name is a parameter exactly if a step has a value under it once it has been inserted. -/
theorem isParameter_iff_insert (s : Step) (name : String) (v : Json) :
    Parameter.isParameter name = true ↔ ((s.insert name v).get? name).isSome = true := by
  rw [Parameter.isParameter, get?]
  cases hname : Parameter.canonicalName? name with
  | none => rfl
  | some k =>
    rw [Option.bind_some, get?_insert, if_pos hname]
    split <;> simp

end Step

/-! ## The whole -/

/-- What the library makes of names. -/
structure VocabularySound : Prop where
  /-- Parameters, configuration and media attributes are recognised by their fold. -/
  parameters : RecognisesByFold Parameter.names Parameter.canonicalName?
  config : RecognisesByFold configNames configName?
  attributes : RecognisesByFold mediaAttributes mediaAttribute?
  /-- The encoder finds every coded parameter under the spellings of its own name alone. -/
  found : ∀ name p, Parameter.find? name = some p ↔
    p ∈ Parameter.all ∧ Name.fold name = Name.fold p.name
  /-- Spellings of one name are encoded alike. -/
  encoded : ∀ a b, Name.fold a = Name.fold b → ∀ v, Token.encode a v = Token.encode b v
  /-- Different parameters have different codes, also in their tokens. -/
  codes : ∀ p ∈ Parameter.all, ∀ q ∈ Parameter.all, p.code = q.code → p = q
  tokens : ∀ a b v w code text text', Token.ofParameter? a v = some (.coded code text) →
    Token.ofParameter? b w = some (.coded code text') → Name.fold a = Name.fold b
  /-- No name is of two kinds. -/
  configOrAttribute : ∀ name, configName? name = none ∨ mediaAttribute? name = none
  controlOrParameter : ∀ name, Name.lookup controlNames name = none ∨
    Parameter.canonicalName? name = none
  /-- A name is a parameter exactly if insertion into a step stores it. -/
  stored : ∀ (s : Step) name v,
    Parameter.isParameter name = true ↔ ((s.insert name v).get? name).isSome = true
  alone : ∀ name v, (Step.empty.insert name v).entries =
    ((Parameter.canonicalName? name).map (·, v)).toList
  /-- With any other character than letters and underscores a name is not recognised at all, and
  it is passed through as it is. -/
  otherwise : ∀ name, (∃ c ∈ name.toList, ¬ Name.IsWord c) →
    Parameter.canonicalName? name = none ∧ configName? name = none ∧
      mediaAttribute? name = none ∧ ∀ m : PropertyMap,
        (Classified.ofMap m).passthrough.get? name = m.get? name ∧
        (Classified.ofMap m).config.get? name = none

/-- **Names are recognised by their fold alone, each as one thing.** -/
theorem vocabulary_sound : VocabularySound where
  parameters := recognisesByFold_parameter
  config := recognisesByFold_config
  attributes := recognisesByFold_attribute
  found _ _ := Parameter.find?_iff
  encoded _ _ hfold := Token.encode_congr hfold
  codes := Parameter.code_injective
  tokens _ _ _ _ _ _ _ := Token.fold_eq_of_code
  configOrAttribute := configName?_or_mediaAttribute?
  controlOrParameter := control_or_parameter
  stored := Step.isParameter_iff_insert
  alone := Step.entries_empty_insert
  otherwise name := by
    rintro ⟨c, hc, hother⟩
    have hname := unrecognised_of_char hc hother
    obtain ⟨hconfig, hmedia⟩ := unrecognised_iff.mp hname
    refine ⟨hname.canonicalName?_eq_none, hconfig, hmedia, fun m => ⟨?_, ?_⟩⟩
    · exact Classified.get?_passthrough_of_unrecognised hname m
    · exact (Classified.canonical_ofMap m).get?_eq_none hname.notMem_configNames

end VideoDelivery
