import VideoDelivery.Proofs.Builder.Calls
import VideoDelivery.Proofs.Video.Agreement
import VideoDelivery.Proofs.Video.Failures
import VideoDelivery.Proofs.Video.Inheritance
import VideoDelivery.Proofs.Video.RespelledValues

/-!
# Posters as properties

An asset is written as one flat object: its controls, its parameters and its chain side by side. No
parameter has the name of a control, whatever the spelling, so the only name that two of them share
is `transformation`, which holds the chain or a parameter. Where both are there, the parameters are
written as the first step of the chain; the asset that is read back (`PosterAsset.readBack`) is then
another one that has the same steps. And where the parameter by itself looks like a chain, it is
taken for one.

* `PosterAsset.addFields_toMap` — **what an asset is read back as**, if no parameter looks like a
  chain in its place.
* `PosterAsset.steps_readBack` — it has the same steps.
* `Poster.survives_property` — **which posters are read back as they are**, and that others are
  shown alike.
-/

namespace VideoDelivery

/-- Where the fields asked for are those of one name, the last one is the one of that name. -/
theorem lastValue_eq_get? {m : PropertyMap} {asked : String × Json → Bool} {name : String}
    (h : ∀ e ∈ m.entries, asked e = true ↔ e.1 = name) :
    lastValue asked m.entries = m.get? name := by
  cases hget : m.get? name with
  | none =>
    refine lastValue_eq_none fun e he => Bool.eq_false_iff.mpr fun hasked => ?_
    have hvalue := (m.mem_entries_iff e.1 e.2).mp he
    rw [(h e he).mp hasked, hget] at hvalue
    cases hvalue
  | some v =>
    have hmem := (m.mem_entries_iff name v).mpr hget
    refine lastValue_of_unique hmem ((h _ hmem).mpr rfl) fun e he hasked => ?_
    have hvalue := (m.mem_entries_iff e.1 e.2).mp he
    rw [(h e he).mp hasked, hget] at hvalue
    exact Prod.ext ((h e he).mp hasked) (Option.some.inj hvalue).symm

/-- A step is put together from its own parameters. -/
theorem Step.insertAll_entries (s : Step) : Step.empty.insertAll s.params.entries = s := by
  have hread := s.ofFields_entries
  rw [ofFields, entries, PropertyMap.ofList_entries] at hread
  exact hread

/-- The steps of a written chain. -/
theorem Chain.explicit_written (steps : List Step) :
    explicit (some (.arr (steps.map Step.toJson))) = steps := by
  show (steps.map Step.toJson).filterMap Child.stepOfJson? = steps
  rw [List.filterMap_map]
  exact (List.filterMap_congr fun step _ => Child.stepOfJson?_toJson step).trans
    List.filterMap_some

/-- A value that contains an object has a step. -/
theorem Chain.explicit_ne_nil {v : Json} (h : v.ContainsObject) : explicit (some v) ≠ [] := by
  rcases h with h | ⟨items, rfl, item, hitem, h⟩
  · cases v
    case obj fields => exact List.cons_ne_nil _ _
    all_goals cases h
  · cases item
    case obj fields => exact List.ne_nil_of_mem (List.mem_filterMap.mpr ⟨_, hitem, rfl⟩)
    all_goals cases h

theorem ResourceType.ofToken_token (t : ResourceType) : ofToken t.token = .ok t := by
  refine ofToken_of_token ?_
  cases t <;> decide

namespace PosterAsset

/-! ## Written fields -/

/-- The names that the controls of an asset are written under. -/
def writtenNames : List String := ["public_id", "cloud_name", "resource_type", "format", "secure"]

/-- The value that is written under a name, apart from the flat parameters. -/
def written? (p : PosterAsset) : String → Option Json
  | "public_id" => some (.str p.publicId)
  | "cloud_name" => p.cloudName.map .str
  | "resource_type" => p.resourceType.map fun t => .str t.token
  | "format" => p.format.map .str
  | "secure" => p.secure.map .bool
  | "transformation" =>
    if p.writtenChain.isEmpty then none else some (.arr (p.writtenChain.map Step.toJson))
  | _ => none

/-- The parameters that are written flat. -/
def flat (p : PosterAsset) : Step := if p.namesAndChains then .empty else p.params

theorem name_of_written? {p : PosterAsset} {k : String} {v : Json} (h : p.written? k = some v) :
    k ∈ writtenNames ∨ k = "transformation" := by
  unfold written? at h
  split at h
  case h_7 => cases h
  all_goals decide

/-- Each name holds what is written under it, or else a flat parameter. -/
theorem get?_toMap (p : PosterAsset) (k : String) :
    p.toMap.get? k = (p.written? k).or (p.flat.params.get? k) := by
  have hflat : (if p.namesAndChains then .empty else p.params.params) = p.flat.params := by
    unfold flat
    split <;> rfl
  have htoMap : p.toMap = p.flat.params.insertAll
      (((writtenNames ++ ["transformation"]).map fun n => (n, p.written? n)).filterMap
        fun c => c.2.map fun v => (c.1, v)) := by
    rw [← hflat]
    rfl
  rw [htoMap, List.filterMap_map]
  refine (PropertyMap.get?_insertAll_filterMap p.written? _ _ k).trans ?_
  split
  · rfl
  next hk =>
    cases h : p.written? k with
    | none => exact Option.none_or.symm
    | some v => exact absurd (by simpa using name_of_written? h) hk

/-! ## Names -/

/-- The name is that of a control, or the canonical one of a parameter. -/
def Known (k : String) : Prop := k ∈ writtenNames ∨ Parameter.canonicalName? k = some k

theorem canonicalName?_writtenNames : ∀ n ∈ writtenNames, Parameter.canonicalName? n = none := by
  have hcontrols : ∀ n ∈ writtenNames, n ∈ controlNames := by decide
  exact fun n hn => canonicalName?_controls n (hcontrols n hn)

theorem fold_writtenNames : ∀ n ∈ writtenNames, ∀ k ∈ writtenNames,
    Name.fold k = Name.fold n → k = n := by
  decide

/-- No other known name is a spelling of a control. -/
theorem Known.eq_of_fold {k n : String} (hk : Known k) (hn : n ∈ writtenNames)
    (hfold : Name.fold k = Name.fold n) : k = n := by
  rcases hk with hk | hk
  · exact fold_writtenNames n hn k hk hfold
  · rw [Parameter.canonicalName?_congr hfold, canonicalName?_writtenNames n hn] at hk
    cases hk

/-- No known name is a spelling of another one. -/
theorem Known.eq_of_known {k n : String} (hk : Known k) (hn : Known n)
    (hfold : Name.fold k = Name.fold n) : k = n := by
  rcases hn with hwritten | hparam
  · exact hk.eq_of_fold hwritten hfold
  · rcases hk with hwritten | hk
    · exact (Known.eq_of_fold (.inr hparam) hwritten hfold.symm).symm
    · rw [Parameter.canonicalName?_congr hfold, hparam] at hk
      exact (Option.some.inj hk).symm

theorem fold_transformation : Name.fold "transformation" = "transformation" := by
  decide

theorem Known.eq_transformation {k : String} (hk : Known k)
    (hfold : Name.fold k = "transformation") : k = "transformation" := by
  rcases hk with hk | hk
  · have hnone : ∀ n ∈ writtenNames, Name.fold n ≠ "transformation" := by decide
    exact absurd hfold (hnone k hk)
  · have hspelled := hfold.trans fold_transformation.symm
    rw [Parameter.canonicalName?_congr hspelled, canonicalName?_transformation] at hk
    exact (Option.some.inj hk).symm

/-- A known name is that of a control when it folds to one. -/
theorem Known.mem_controlFolds_iff {k : String} (hk : Known k) :
    Name.fold k ∈ controlFolds ↔ k ∈ writtenNames := by
  have hfolds : ∀ f ∈ controlFolds, ∃ n ∈ writtenNames, f = Name.fold n := by decide
  have hnames : ∀ n ∈ writtenNames, Name.fold n ∈ controlFolds := by decide
  constructor
  · intro hmem
    obtain ⟨n, hn, hfold⟩ := hfolds _ hmem
    rw [hk.eq_of_fold hn hfold]
    exact hn
  · exact hnames k

theorem known_of_mem_toMap {p : PosterAsset} {e : String × Json} (he : e ∈ p.toMap.entries) :
    Known e.1 := by
  have hget := (p.toMap.mem_entries_iff e.1 e.2).mp he
  rw [get?_toMap] at hget
  rcases Option.or_eq_some_iff.mp hget with hwritten | ⟨-, hflat⟩
  · rcases name_of_written? hwritten with hname | hname
    · exact .inl hname
    · exact .inr (hname ▸ canonicalName?_transformation)
  · exact .inr (p.flat.canonical e ((PropertyMap.mem_entries_iff ..).mpr hflat))

theorem flat_get?_eq_none {p : PosterAsset} {n : String} (hn : n ∈ writtenNames) :
    p.flat.params.get? n = none := by
  cases hget : p.flat.params.get? n with
  | none => rfl
  | some v =>
    have hparam := p.flat.canonical (n, v) ((PropertyMap.mem_entries_iff ..).mpr hget)
    rw [canonicalName?_writtenNames n hn] at hparam
    cases hparam

/-! ## The chain -/

theorem get?_transformation (s : Step) :
    s.get? "transformation" = s.params.get? "transformation" := by
  rw [Step.get?, canonicalName?_transformation]
  rfl

/-- The asset has a chain, or no parameter that could be taken for one. -/
def ChainTold (p : PosterAsset) : Prop :=
  p.chain ≠ [] ∨ ∀ v, p.params.get? "transformation" = some v → ¬ v.ContainsObject

theorem namesAndChains_iff {p : PosterAsset} :
    p.namesAndChains = true ↔ (∃ v, p.params.get? "transformation" = some v) ∧ p.chain ≠ [] := by
  rw [namesAndChains, Bool.and_eq_true, Option.isSome_iff_exists, Bool.not_eq_true',
    List.isEmpty_eq_false_iff]

theorem writtenChain_eq_nil_iff {p : PosterAsset} : p.writtenChain = [] ↔ p.chain = [] := by
  unfold writtenChain
  split
  next h => simp [(namesAndChains_iff.mp h).2]
  next => rfl

theorem written?_transformation (p : PosterAsset) : p.written? "transformation" =
    if p.chain = [] then none else some (.arr (p.writtenChain.map Step.toJson)) := by
  simp only [written?, List.isEmpty_iff, writtenChain_eq_nil_iff]

/-- A parameter of the name of the chain is written only where there is no chain. -/
theorem flat_get?_transformation (p : PosterAsset) : p.flat.params.get? "transformation" =
    if p.chain = [] then p.params.get? "transformation" else none := by
  unfold flat
  split
  next h =>
    rw [if_neg (namesAndChains_iff.mp h).2]
    rfl
  next h =>
    rw [get?_transformation]
    split
    · rfl
    next hchain =>
      rw [← get?_transformation]
      cases hget : p.params.get? "transformation" with
      | none => rfl
      | some v => exact absurd (namesAndChains_iff.mpr ⟨⟨v, hget⟩, hchain⟩) h

theorem get?_toMap_transformation (p : PosterAsset) : p.toMap.get? "transformation" =
    if p.chain = [] then p.params.get? "transformation"
    else some (.arr (p.writtenChain.map Step.toJson)) := by
  rw [get?_toMap, written?_transformation, flat_get?_transformation]
  split
  · exact Option.none_or
  · exact Option.some_or

/-- Only the chain is taken for the chain. -/
theorem isChainField_toMap {p : PosterAsset} (h : p.ChainTold) {e : String × Json}
    (he : e ∈ p.toMap.entries) :
    isChainField e = true ↔ e.1 = "transformation" ∧ p.chain ≠ [] := by
  have hget := (p.toMap.mem_entries_iff e.1 e.2).mp he
  rw [isChainField_iff, Chain.isChain_iff]
  constructor
  · rintro ⟨hname, hobject⟩
    have hname := (known_of_mem_toMap he).eq_transformation hname
    refine ⟨hname, fun hchain => ?_⟩
    rw [hname, get?_toMap_transformation, if_pos hchain] at hget
    exact h.elim (fun hne => hne hchain) fun hnone => hnone e.2 hget hobject
  · rintro ⟨hname, hchain⟩
    rw [hname, get?_toMap_transformation, if_neg hchain] at hget
    refine ⟨(congrArg Name.fold hname).trans fold_transformation, .inr ?_⟩
    -- the first step of a chain is an object
    obtain ⟨step, hstep⟩ := List.exists_mem_of_ne_nil _ (mt writtenChain_eq_nil_iff.mp hchain)
    exact ⟨_, (Option.some.inj hget).symm, step.toJson, List.mem_map_of_mem hstep, rfl⟩

theorem lastValue_isChainField {p : PosterAsset} (h : p.ChainTold) :
    lastValue isChainField p.toMap.entries = p.written? "transformation" := by
  rw [written?_transformation]
  split
  next hchain =>
    refine lastValue_eq_none fun e he => Bool.eq_false_iff.mpr fun hasked => ?_
    exact ((isChainField_toMap h he).mp hasked).2 hchain
  next hchain =>
    have hasked : ∀ e ∈ p.toMap.entries, isChainField e = true ↔ e.1 = "transformation" := by
      intro e he
      rw [isChainField_toMap h he]
      exact and_iff_left hchain
    rw [lastValue_eq_get? hasked, get?_toMap_transformation, if_neg hchain]

/-- A parameter that looks like a chain is taken for one. -/
theorem lastValue_isChainField_of_parameter {p : PosterAsset} {v : Json} (hchain : p.chain = [])
    (hv : p.params.get? "transformation" = some v) (hobject : v.ContainsObject) :
    lastValue isChainField p.toMap.entries = some v := by
  have hget : p.toMap.get? "transformation" = some v := by
    rw [get?_toMap_transformation, if_pos hchain, hv]
  rw [← hget]
  refine lastValue_eq_get? fun e he => ?_
  rw [isChainField_iff, Chain.isChain_iff]
  constructor
  · exact fun h => (known_of_mem_toMap he).eq_transformation h.1
  · intro hname
    have hvalue := (p.toMap.mem_entries_iff e.1 e.2).mp he
    rw [hname, hget] at hvalue
    refine ⟨(congrArg Name.fold hname).trans fold_transformation, ?_⟩
    rw [← Option.some.inj hvalue]
    exact hobject

/-! ## Controls and parameters -/

/-- In a map with known names only, a name is read from where it is. -/
theorem lastValue_spells_of_known {m : PropertyMap} (h : ∀ e ∈ m.entries, Known e.1)
    {n f : String} (hn : Known n) (hf : Name.fold n = f) :
    lastValue (spells f) m.entries = m.get? n := by
  refine lastValue_eq_get? fun e he => ?_
  rw [spells, decide_eq_true_iff, ← hf]
  exact ⟨(h e he).eq_of_known hn, congrArg Name.fold⟩

/-- A control is read from where it is written. -/
theorem lastValue_spells {p : PosterAsset} {n f : String} (hn : n ∈ writtenNames)
    (hf : Name.fold n = f) : lastValue (spells f) p.toMap.entries = p.written? n := by
  rw [lastValue_spells_of_known (fun _ => known_of_mem_toMap) (.inl hn) hf, get?_toMap,
    flat_get?_eq_none hn, Option.or_none]

/-- No parameter is written flat under a name that is taken. -/
theorem written?_eq_none {p : PosterAsset} {k : String} {v : Json}
    (h : p.flat.params.get? k = some v) : p.written? k = none := by
  cases hvalue : p.written? k with
  | none => rfl
  | some w =>
    rcases name_of_written? hvalue with hname | rfl
    · rw [flat_get?_eq_none hname] at h
      cases h
    · rw [written?_transformation] at hvalue
      rw [flat_get?_transformation] at h
      split at hvalue
      · cases hvalue
      next hchain =>
        rw [if_neg hchain] at h
        cases h

/-- What is left to the flat parameters is what was written flat. -/
theorem filter_isFlatField {p : PosterAsset} (h : p.ChainTold) :
    p.toMap.entries.filter isFlatField = p.flat.params.entries := by
  refine PropertyMap.eq_of_mem_iff (p.toMap.sorted.filter _) p.flat.params.sorted fun e => ?_
  rw [List.mem_filter, PropertyMap.mem_entries_iff p.flat.params]
  constructor
  · rintro ⟨he, hflat⟩
    obtain ⟨hcontrol, hother⟩ := isFlatField_iff.mp hflat
    have hget := (p.toMap.mem_entries_iff e.1 e.2).mp he
    rw [get?_toMap] at hget
    rcases Option.or_eq_some_iff.mp hget with hwritten | ⟨-, hget⟩
    · -- it would be a control or the chain
      rcases name_of_written? hwritten with hname | hname
      · exact absurd ((known_of_mem_toMap he).mem_controlFolds_iff.mpr hname) hcontrol
      · rw [hname, written?_transformation] at hwritten
        split at hwritten
        · cases hwritten
        next hchain =>
          rw [(isChainField_toMap h he).mpr ⟨hname, hchain⟩] at hother
          cases hother
    · exact hget
  · intro hget
    have he : e ∈ p.toMap.entries := by
      rw [PropertyMap.mem_entries_iff, get?_toMap, written?_eq_none hget, Option.none_or, hget]
    refine ⟨he, isFlatField_iff.mpr ⟨fun hcontrol => ?_, Bool.eq_false_iff.mpr fun hfield => ?_⟩⟩
    · rw [flat_get?_eq_none ((known_of_mem_toMap he).mem_controlFolds_iff.mp hcontrol)] at hget
      cases hget
    · obtain ⟨hname, hchain⟩ := (isChainField_toMap h he).mp hfield
      rw [hname, flat_get?_transformation, if_neg hchain] at hget
      cases hget

/-! ## Reading back -/

/-- The asset with other parameters and another chain. -/
def withSteps (p : PosterAsset) (params : Step) (chain : List Step) : PosterAsset :=
  { p with params, chain }

@[simp] theorem publicId_withSteps (p : PosterAsset) (params : Step) (chain : List Step) :
    (p.withSteps params chain).publicId = p.publicId := rfl

@[simp] theorem chain_withSteps (p : PosterAsset) (params : Step) (chain : List Step) :
    (p.withSteps params chain).chain = chain := rfl

@[simp] theorem steps_withSteps (p : PosterAsset) (params : Step) (chain : List Step) :
    (p.withSteps params chain).steps = Chain.withHead params chain := rfl

/-- What an asset is read back as: where there is a parameter of the name of the chain besides a
chain, all parameters have become the first step of it. -/
def readBack (p : PosterAsset) : PosterAsset := p.withSteps p.flat p.writtenChain

theorem readable_toMap {p : PosterAsset} (h : p.ChainTold) :
    ∀ e ∈ p.toMap.entries, Readable e := by
  intro e he
  have hget := (p.toMap.mem_entries_iff e.1 e.2).mp he
  constructor
  case resourceType =>
    intro hfold s hs
    have hname : e.1 = "resource_type" :=
      (known_of_mem_toMap he).eq_of_fold (by decide) (hfold.trans (by decide))
    rw [hname, get?_toMap, flat_get?_eq_none (by decide), Option.or_none, hs] at hget
    obtain ⟨t, -, ht⟩ := Option.map_eq_some_iff.mp hget
    rw [← Json.str.inj ht, ← ResourceType.isOk_ofToken_iff]
    exact ⟨t, t.ofToken_token⟩
  case chain =>
    intro hfield
    obtain ⟨hname, hchain⟩ := (isChainField_toMap h he).mp hfield
    rw [hname, get?_toMap_transformation, if_neg hchain] at hget
    refine .inr (.inr ⟨_, (Option.some.inj hget).symm, fun item hitem => ?_⟩)
    obtain ⟨step, -, rfl⟩ := List.mem_map.mp hitem
    rfl

/-- An optional part that is written and read is the part it was. -/
theorem getD_map_map {α : Type} (write : α → Json) (read : Json → Option α)
    (h : ∀ a, read (write a) = some a) (x : Option α) :
    ((x.map write).map read).getD none = x := by
  cases x with
  | none => rfl
  | some a => exact h a

theorem typeIn?_token (t : ResourceType) : typeIn? (.str t.token) = some t := by
  rw [typeIn?, Json.asString?, Option.bind_some, t.ofToken_token, Except.toOption]

/-- Whatever an asset is read back as, it has the identifier it had. -/
theorem publicId_of_addFields {p q : PosterAsset} (h : addFields {} p.toMap.entries = .ok q) :
    q.publicId = p.publicId := by
  have hid : lastValue (spells "publicid") p.toMap.entries = some (.str p.publicId) :=
    lastValue_spells (n := "public_id") (by decide) (by decide)
  rw [(gathered_of_addFields h).publicId, hid, Option.map_some, Option.getD_some, Json.asString?,
    Option.getD_some]

/-- **What an asset is read back as.** -/
theorem addFields_toMap {p : PosterAsset} (h : p.ChainTold) :
    addFields {} p.toMap.entries = .ok p.readBack := by
  obtain ⟨q, hq⟩ := isOk_addFields_iff (p := {}).mpr (readable_toMap h)
  have hgathered := gathered_of_addFields hq
  have hcloud : lastValue (spells "cloudname") p.toMap.entries = p.cloudName.map .str :=
    lastValue_spells (n := "cloud_name") (by decide) (by decide)
  have htype : lastValue (spells "resourcetype") p.toMap.entries =
      p.resourceType.map fun t => .str t.token :=
    lastValue_spells (n := "resource_type") (by decide) (by decide)
  have hformat : lastValue (spells "format") p.toMap.entries = p.format.map .str :=
    lastValue_spells (n := "format") (by decide) (by decide)
  have hsecure : lastValue (spells "secure") p.toMap.entries = p.secure.map .bool :=
    lastValue_spells (n := "secure") (by decide) (by decide)
  have hparams : q.params = p.flat := by
    rw [hgathered.params, filter_isFlatField h]
    exact p.flat.insertAll_entries
  have hchain : q.chain = p.writtenChain := by
    rw [hgathered.chain, lastValue_isChainField h, written?_transformation]
    split
    next hnil => rw [writtenChain_eq_nil_iff.mpr hnil, Option.map_none, Option.getD_none]
    next => rw [Option.map_some, Option.getD_some, Chain.explicit_written]
  have hback : q = p.readBack := by
    rw [readBack, ← hparams, ← hchain]
    apply PosterAsset.ext
    case cloudName =>
      rw [hgathered.cloudName, hcloud]
      exact getD_map_map Json.str Json.asString? (fun _ => rfl) p.cloudName
    case publicId => exact publicId_of_addFields (p := p) hq
    case resourceType =>
      rw [hgathered.resourceType, htype]
      exact getD_map_map _ typeIn? typeIn?_token p.resourceType
    case format =>
      rw [hgathered.format, hformat]
      exact getD_map_map Json.str Json.asString? (fun _ => rfl) p.format
    case secure =>
      rw [hgathered.secure, hsecure]
      exact getD_map_map Json.bool Json.asBool? (fun _ => rfl) p.secure
    case params | chain => rfl
  rw [hq, hback]

/-- If an asset is read back with a chain that is as long as it was, its parameters and its chain do
not both take the name of the chain. -/
theorem apart_of_length {p q : PosterAsset} (h : addFields {} p.toMap.entries = .ok q)
    (hlength : q.chain.length = p.chain.length) :
    p.params.get? "transformation" = none ∨
      p.chain = [] ∧ ∀ v, p.params.get? "transformation" = some v → ¬ v.ContainsObject := by
  cases hget : p.params.get? "transformation" with
  | none => exact .inl rfl
  | some v =>
    right
    by_cases hchain : p.chain = []
    · refine ⟨hchain, ?_⟩
      rintro _ ⟨⟩ hobject
      -- the parameter would have been read as a chain that is not empty
      have hsteps := (gathered_of_addFields h).chain
      rw [lastValue_isChainField_of_parameter hchain hget hobject, Option.map_some,
        Option.getD_some] at hsteps
      rw [hchain, List.length_nil, List.length_eq_zero_iff, hsteps] at hlength
      exact absurd hlength (Chain.explicit_ne_nil hobject)
    · -- the parameters would have become a step of the chain
      have hread := addFields_toMap (.inl hchain : p.ChainTold)
      have hboth : p.namesAndChains = true := namesAndChains_iff.mpr ⟨⟨v, hget⟩, hchain⟩
      obtain rfl := Except.ok.inj (h.symm.trans hread)
      rw [readBack, chain_withSteps, writtenChain, if_pos hboth, List.length_cons] at hlength
      omega

/-- An asset is read back with the steps it had. -/
theorem steps_readBack (p : PosterAsset) : p.readBack.steps = p.steps := by
  rw [readBack, steps_withSteps, steps, flat, writtenChain]
  cases hboth : p.namesAndChains with
  | false => rfl
  | true =>
    -- the parameters are not empty, so they were the first step before
    have hne : p.params.isEmpty = false := by
      obtain ⟨⟨v, hv⟩, -⟩ := namesAndChains_iff.mp hboth
      rw [get?_transformation] at hv
      exact List.isEmpty_eq_false_iff.mpr
        (List.ne_nil_of_mem ((PropertyMap.mem_entries_iff ..).mpr hv))
    rw [if_pos rfl, if_pos rfl, Chain.withHead, Chain.withHead, hne]
    rfl

end PosterAsset

/-! ## Posters -/

namespace Poster

/-- The poster is a URL, a first frame, or an asset with an identifier, and its parameters and its
chain do not both take the name of the chain: there is no parameter of that name, or no chain and
the parameter does not look like one. -/
def Plain : Poster → Prop
  | .url _ | .frame _ => True
  | .asset p => Text.trim p.publicId ≠ "" ∧
    (p.params.get? "transformation" = none ∨
      p.chain = [] ∧ ∀ v, p.params.get? "transformation" = some v → ¬ v.ContainsObject)

/-- The poster is a URL, a first frame, or an asset with an identifier whose chain can be told from
its parameters. -/
def Told : Poster → Prop
  | .url _ | .frame _ => True
  | .asset p => Text.trim p.publicId ≠ "" ∧ p.ChainTold

theorem told_of_plain {s : Poster} (h : s.Plain) : s.Told := by
  cases s with
  | url | frame => trivial
  | asset p =>
    obtain ⟨hid, hnone | ⟨-, hobject⟩⟩ := h
    · refine ⟨hid, .inr fun v hv => ?_⟩
      rw [hnone] at hv
      cases hv
    · exact ⟨hid, .inr hobject⟩

theorem ofProperty_asset_eq_ok {p : PosterAsset} {t : Poster} :
    ofProperty (asset p).toJson = .ok (some t) ↔
      ∃ q, PosterAsset.addFields {} p.toMap.entries = .ok q ∧
        t = if Text.allBlank q.publicId then .frame q.secure else .asset q := by
  show ofProperty (.obj p.toMap.entries) = _ ↔ _
  rw [ofProperty_obj_eq_ok, PropertyMap.ofList_entries]
  simp only [Option.some.injEq]

/-- An asset whose chain can be told is read back as another one, or as itself. -/
theorem ofProperty_of_told {p : PosterAsset} (h : (asset p).Told) :
    ofProperty (asset p).toJson = .ok (some (.asset p.readBack)) := by
  refine ofProperty_asset_eq_ok.mpr ⟨_, PosterAsset.addFields_toMap h.2, ?_⟩
  rw [if_neg]
  rw [PosterAsset.readBack, PosterAsset.publicId_withSteps]
  exact mt (Text.trim_eq_empty_iff p.publicId).mpr h.1

theorem resolve_readBack (p : PosterAsset) (video : Inherited) :
    resolve (some (.asset p.readBack)) video = resolve (some (.asset p)) video := by
  have hother : ∀ params chain, resolve (some (.asset (p.withSteps params chain))) video =
      (p.asset video).url (p.withSteps params chain).steps
        (.ofSecure (p.secure.getD video.secure)) := fun _ _ => rfl
  rw [PosterAsset.readBack, hother, ← PosterAsset.readBack, PosterAsset.steps_readBack]
  rfl

/-- A first frame is read back from the scheme that it is written with. -/
theorem ofProperty_frame (secure : Option Bool) :
    ofProperty (frame secure).toJson = .ok (some (.frame secure)) := by
  cases secure with
  | none => rfl
  | some on =>
    have hread : PosterAsset.addFields {} [("secure", .bool on)] =
        .ok { secure := some on } := by
      have hfold : Name.fold "secure" = "secure" := by decide
      simp [PosterAsset.addFields, PosterAsset.addField, hfold, Json.asBool?, bind, Except.bind]
    exact ofProperty_obj_eq_ok.mpr ⟨_, hread, rfl⟩

/-- A poster that can be told is read back as one that is shown alike. -/
theorem shown_of_told {s : Poster} (h : s.Told) : ∃ t, ofProperty s.toJson = .ok (some t) ∧
    ∀ video, resolve (some t) video = resolve (some s) video := by
  cases s with
  | url text => exact ⟨_, rfl, fun _ => rfl⟩
  | frame secure => exact ⟨_, ofProperty_frame secure, fun _ => rfl⟩
  | asset p => exact ⟨_, ofProperty_of_told h, resolve_readBack p⟩

theorem readBack_of_plain {p : PosterAsset} (h : (asset p).Plain) : p.readBack = p := by
  have hboth : p.namesAndChains = false := by
    rw [← Bool.not_eq_true, PosterAsset.namesAndChains_iff]
    rintro ⟨⟨v, hv⟩, hchain⟩
    rcases h.2 with hnone | ⟨hnil, -⟩
    · rw [hnone] at hv
      cases hv
    · exact hchain hnil
  rw [PosterAsset.readBack, PosterAsset.flat, PosterAsset.writtenChain, hboth]
  rfl

/-- A plain poster is read back as it is. -/
theorem ofProperty_of_plain {s : Poster} (h : s.Plain) : ofProperty s.toJson = .ok (some s) := by
  cases s with
  | url text => rfl
  | frame secure => exact ofProperty_frame secure
  | asset p => rw [ofProperty_of_told (told_of_plain h), readBack_of_plain h]

/-- A poster that is read back as an equal one is plain. -/
theorem plain_of_same {s t : Poster} (hread : ofProperty s.toJson = .ok (some t))
    (hsame : (t == s) = true) : s.Plain := by
  cases s with
  | url | frame => trivial
  | asset p =>
    obtain ⟨q, hq, rfl⟩ := ofProperty_asset_eq_ok.mp hread
    -- a first frame is no asset, so the identifier is not blank
    cases hblank : Text.allBlank q.publicId with
    | true =>
      rw [hblank, if_pos rfl] at hsame
      exact absurd hsame Bool.false_ne_true
    | false =>
    rw [hblank, if_neg Bool.false_ne_true] at hsame
    obtain ⟨-, -, -, -, -, -, hchains⟩ := PosterAsset.same_iff.mp hsame
    rw [PosterAsset.publicId_of_addFields hq] at hblank
    refine ⟨mt (Text.trim_eq_empty_iff p.publicId).mp (Bool.eq_false_iff.mp hblank), ?_⟩
    exact PosterAsset.apart_of_length hq (forall₂_of_beq hchains).length_eq

instance : ReflBEq Poster := ⟨fun {s} => by
  cases s with
  | url text => exact beq_self_eq_true text
  | frame secure => exact beq_self_eq_true secure
  | asset p =>
    exact PosterAsset.same_iff.mpr ⟨rfl, rfl, rfl, rfl, rfl, ReflBEq.rfl, ReflBEq.rfl⟩⟩

end Poster

/-! ## The posters of builders -/

namespace Builder

/-- The poster that is built is the last one that was set. -/
theorem get?_built_poster {later : List Call}
    (hlater : ∀ c ∈ later, ∀ v, c.property? ≠ some ("poster", v)) (id : Option String)
    (calls : List Call) (s : Poster) :
    (built id (calls ++ .poster s :: later)).attributes.get? "poster" = some s.toJson := by
  have hset : (calls ++ .poster s :: later).filterMap Call.property? =
      calls.filterMap Call.property? ++ ("poster", s.toJson) :: later.filterMap Call.property? := by
    rw [List.filterMap_append]
    rfl
  rw [built, get?_build_of_ne (by decide) (by decide), after_eq,
    PropertyMap.get?_insertAll_reverse, hset, List.reverse_append, List.reverse_cons,
    List.append_assoc, List.lookup_append, lookup_property?_eq_none hlater, List.singleton_append,
    PropertyMap.lookup_field, if_pos rfl]
  rfl

/-- A video shows the poster that it was built with, if the poster can be told. -/
theorem poster_of_built {s : Poster} (h : s.Told) {later : List Call}
    (hlater : ∀ c ∈ later, ∀ v, c.property? ≠ some ("poster", v)) {id : Option String}
    {calls : List Call} {ctx : Context} {r : Resolved}
    (hr : (built id (calls ++ .poster s :: later)).resolve ctx = .ok r) :
    ((built id (calls ++ .poster s :: later)).render ctx).map (fun x => x.element.poster) =
      Poster.resolve (some s) r.config.inherited := by
  obtain ⟨t, ht, hshown⟩ := Poster.shown_of_told h
  obtain ⟨hread, -⟩ := Config.property_of_ok (Props.ofProperties_of_resolve hr)
  rw [Props.property_of_own (by decide) (by decide) (get?_built_poster hlater id calls s), ht]
    at hread
  rw [← hshown, Except.ok.inj hread,
    ← Rendered.map_poster_ofResolved (Props.addressable_of_resolve hr), Props.render, hr]
  rfl

end Builder

/-- **Posters as properties.** Exactly the plain posters are read back as they are from the property
that they are written as; no other one is read back as an equal one. An asset whose chain can be
told is still read back as an asset, and that is shown like it under every video. So a video that is
built with such a poster shows it. -/
theorem Poster.survives_property (s : Poster) :
    (ofProperty s.toJson = .ok (some s) ↔ s.Plain) ∧
    ((∃ t, ofProperty s.toJson = .ok (some t) ∧ (t == s) = true) ↔ s.Plain) ∧
    (∀ p, s = .asset p → s.Told → ∃ q, ofProperty s.toJson = .ok (some (.asset q)) ∧
      ∀ video, resolve (some (.asset q)) video = resolve (some s) video) ∧
    (s.Told → ∀ id calls later,
      (∀ c ∈ later, ∀ v, Builder.Call.property? c ≠ some ("poster", v)) →
      ∀ ctx r, (Builder.built id (calls ++ .poster s :: later)).resolve ctx = .ok r →
        ((Builder.built id (calls ++ .poster s :: later)).render ctx).map
            (fun x => x.element.poster) = resolve (some s) r.config.inherited) := by
  refine ⟨⟨fun h => plain_of_same h ReflBEq.rfl, ofProperty_of_plain⟩, ⟨?_, ?_⟩, ?_, ?_⟩
  · rintro ⟨t, hread, hsame⟩
    exact plain_of_same hread hsame
  · exact fun h => ⟨s, ofProperty_of_plain h, ReflBEq.rfl⟩
  · rintro p rfl h
    exact ⟨p.readBack, ofProperty_of_told h, resolve_readBack p⟩
  · exact fun h id calls later hlater ctx r hr => Builder.poster_of_built h hlater hr

/-- A poster with a named transformation and a chain. -/
def Poster.named : Poster := .asset {
  publicId := "cat"
  params := Step.empty.insert "transformation" (.str "thumb")
  chain := [Step.empty.insert "dpr" (.str "2.0")] }

/-- A video with this poster, and a property that names it in another spelling. -/
def Builder.withNamed : Props :=
  built (some "dog") ([.cloudName "demo"] ++ .poster .named :: [.attr "POSTER" (.str "other")])

/-- It is not read back as it is, and still shown. -/
theorem Poster.survives_property_named :
    named.Told ∧ ofProperty named.toJson ≠ .ok (some named) ∧
      (Builder.withNamed.render .empty).map (fun x => x.element.poster) =
        .ok "http://res.cloudinary.com/demo/image/upload/t_thumb/dpr_2.0/cat" := by
  obtain ⟨hequal, -, -, hbuilt⟩ := survives_property named
  have htold : named.Told := ⟨by decide +kernel, .inl (by simp)⟩
  have hplain : ¬ named.Plain := by
    rintro ⟨-, hnone | ⟨hchain, -⟩⟩
    · cases hnone
    · cases hchain
  have hrun : (do
      let r ← Builder.withNamed.resolve .empty
      resolve (some named) r.config.inherited) =
        .ok "http://res.cloudinary.com/demo/image/upload/t_thumb/dpr_2.0/cat" := by
    decide +kernel
  obtain ⟨r, hr, hurl⟩ := bind_eq_ok.mp hrun
  refine ⟨htold, fun h => hplain (hequal.mp h), ?_⟩
  rw [← hurl]
  have hlater : ∀ c ∈ [Builder.Call.attr "POSTER" (.str "other")], ∀ v,
      c.property? ≠ some ("poster", v) := by
    simp [Builder.Call.property?]
  exact hbuilt htold (some "dog") [.cloudName "demo"] _ hlater .empty r hr

end VideoDelivery
