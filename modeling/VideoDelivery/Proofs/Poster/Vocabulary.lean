import VideoDelivery.Proofs.Poster.Spellings
import VideoDelivery.Proofs.Property.Classification

/-!
# One vocabulary for videos and posters

The transformation of a video is written among its properties, and that of a poster among the fields
of its object. They are read by different loops: the one over canonical names, which finds the chain
under its own, and the other over the keys as they are written, where each field is a control, the
chain or a parameter. Still both read one vocabulary. What they have in common is the step of the
flat parameters (`PropertyMap.flatStep`) and the reading of the explicit steps
(`PropertyMap.mentionedChain`), which is also the only thing that can fail.

* `Config.ofProperties_of_parameters` — a video with nothing but parameters.
* `Poster.ofProperty_of_parameters` — a poster with nothing but parameters.
* `Poster.reads_like_video` — **videos and posters read parameters alike**, to the same steps or
  with the same error.
-/

namespace VideoDelivery

/-! ## Maps of parameters -/

namespace PropertyMap

variable {m T : PropertyMap} {key k n : String} {v : Json}

theorem mentioned?_eq_none_iff :
    m.mentioned? k = none ↔ ∀ name, Name.fold name = Name.fold k → m.get? name = none := by
  rw [← Option.not_isSome_iff_eq_none, isSome_mentioned?_iff]
  constructor
  · intro h name hfold
    rw [← Option.not_isSome_iff_eq_none, ← mem_keys_iff]
    exact fun hmem => h ⟨name, hmem, hfold⟩
  · rintro h ⟨name, hmem, hfold⟩
    rw [mem_keys_iff, h name hfold] at hmem
    cases hmem

theorem mem_insert_iff {e : String × Json} :
    e ∈ (m.insert key v).entries ↔ e = (key, v) ∨ e.1 ≠ key ∧ e ∈ m.entries := by
  obtain ⟨name, w⟩ := e
  rw [mem_entries_iff, get?_insert, mem_entries_iff, Prod.mk.injEq]
  by_cases hname : name = key
  · rw [if_pos hname, Option.some.injEq]
    simp [hname, eq_comm]
  · simp [hname]

/-- A name is still spelled once if an entry for another name is inserted, or one for itself that it
did not have. -/
theorem SpelledOnce.insert (h : m.SpelledOnce n)
    (hfresh : Name.fold key = Name.fold n → m.mentioned? n = none) :
    (m.insert key v).SpelledOnce n := by
  by_cases hkey : Name.fold key = Name.fold n
  · -- there was no spelling before, so the new entry is the only one
    have hnew : ∀ e ∈ (m.insert key v).entries, Name.fold e.1 = Name.fold n → e = (key, v) := by
      intro e he hspells
      rcases mem_insert_iff.mp he with heq | ⟨-, he⟩
      · exact heq
      · rw [mem_entries_iff, mentioned?_eq_none_iff.mp (hfresh hkey) e.1 hspells] at he
        cases he
    exact fun e he f hf hspells hspells' => (hnew e he hspells).trans (hnew f hf hspells').symm
  · -- the new entry is no spelling, so they are all from before
    have hold : ∀ e ∈ (m.insert key v).entries, Name.fold e.1 = Name.fold n → e ∈ m.entries := by
      intro e he hspells
      rcases mem_insert_iff.mp he with rfl | ⟨-, he⟩
      · exact absurd hspells hkey
      · exact he
    exact fun e he f hf hspells hspells' =>
      h e (hold e he hspells) f (hold f hf hspells') hspells hspells'

theorem mentioned?_insert_of_ne (h : Name.fold key ≠ Name.fold k) :
    (m.insert key v).mentioned? k = m.mentioned? k := by
  refine mentioned?_congr fun name hname => ?_
  rw [get?_insert, if_neg]
  rintro rfl
  exact h hname

theorem mentioned?_insert_of_eq (hkey : Name.fold key = Name.fold k)
    (hfresh : m.mentioned? k = none) : (m.insert key v).mentioned? k = some v := by
  have honce : m.SpelledOnce k := by
    intro e he f hf hspells
    rw [mem_entries_iff, mentioned?_eq_none_iff.mp hfresh e.1 hspells] at he
    cases he
  exact (honce.insert fun _ => hfresh).mentioned?_eq (mem_insert_iff.mpr (.inl rfl)) hkey

/-- Under canonical names an entry that is new changes nothing but its own. -/
theorem mentioned?_insert (hn : n ∈ configNames) (hkey : Name.fold key = Name.fold n)
    (hfresh : m.mentioned? n = none) (hk : k ∈ configNames) :
    (m.insert key v).mentioned? k = if k = n then some v else m.mentioned? k := by
  split
  next heq =>
    subst heq
    exact mentioned?_insert_of_eq hkey hfresh
  next hne =>
    refine mentioned?_insert_of_ne fun hfold => hne ?_
    exact (eq_of_fold_eq (List.mem_append_left _ hn) (List.mem_append_left _ hk)
      (hkey.symm.trans hfold)).symm

/-- The keys are names of transformation parameters, and no two of them are one name. -/
structure ParametersOnly (T : PropertyMap) : Prop where
  parameter : ∀ k ∈ T.keys, Parameter.isParameter k = true
  apart : ∀ k ∈ T.keys, ∀ l ∈ T.keys, Name.fold k = Name.fold l → k = l

namespace ParametersOnly

theorem spelledOnce (h : T.ParametersOnly) (n : String) : T.SpelledOnce n := by
  intro e he f hf hspells hspells'
  have hkey : e.1 = f.1 := h.apart e.1 (List.mem_map_of_mem he) f.1 (List.mem_map_of_mem hf)
    (hspells.trans hspells'.symm)
  rw [mem_entries_iff] at he hf
  rw [hkey, hf] at he
  exact Prod.ext hkey (Option.some.inj he).symm

/-- No control is mentioned in any spelling. -/
theorem mentioned?_control (h : T.ParametersOnly) (hn : n ∈ controlNames)
    (hspells : Name.fold k = Name.fold n) : T.mentioned? k = none := by
  rw [← Option.not_isSome_iff_eq_none, isSome_mentioned?_iff]
  rintro ⟨name, hmem, hfold⟩
  have hparam := h.parameter name hmem
  rw [Parameter.isParameter, Parameter.canonicalName?_congr (hfold.trans hspells),
    canonicalName?_controls n hn] at hparam
  cases hparam

end ParametersOnly

/-- The explicit steps that the map gives under the name of the chain, if they can be read. -/
def mentionedChain (m : PropertyMap) : Except Error (List Step) :=
  match m.mentioned? "transformation" with
  | none => .ok []
  | some v => Config.chainOf v

theorem explicit_of_mentionedChain {chain : List Step} (h : m.mentionedChain = .ok chain) :
    Chain.explicit (m.mentioned? "transformation") = chain := by
  unfold mentionedChain at h
  cases hvalue : m.mentioned? "transformation" with
  | none =>
    rw [hvalue] at h
    exact Except.ok.inj h
  | some v =>
    rw [hvalue] at h
    exact (Config.explicit_of_chainOf h).symm

end PropertyMap

/-! ## Flat parameters -/

namespace PropertyMap

open PosterAsset

variable {m T : PropertyMap} {k : String}

/-- Both readers leave the same values to the flat parameters. -/
theorem isFlatField_eq_isFlat (hk : k ∈ Parameter.names) (v : Json) :
    isFlatField (k, v) = Config.isFlat k v := by
  have hparam : Parameter.isParameter k = true := by
    rw [Parameter.isParameter, Parameter.canonicalName?_names k hk]
    rfl
  have hname : Name.fold k = "transformation" ↔ k = "transformation" := by
    constructor
    · exact (known_of_mem_names hk).eq_transformation
    · rintro rfl
      exact fold_transformation
  rw [isFlatField_of_parameter hk rfl, Config.isFlat, hparam, Bool.true_and, isChainField]
  simp only [hname]

/-- A flat parameter that is spelled once has the value that is mentioned, if that is left to it. -/
theorem SpelledOnce.get?_flatStep (h : m.SpelledOnce k) (hk : k ∈ Parameter.names) :
    m.flatStep.params.get? k = (m.mentioned? k).filter (Config.isFlat k) := by
  have hkeep : ∀ e : String × Json, Name.fold e.1 = Name.fold k →
      isFlatField e = isFlatField (k, e.2) := by
    intro e hfold
    rw [isFlatField_of_parameter hk hfold, isFlatField_of_parameter hk rfl, isChainField,
      isChainField, hfold]
  rw [PropertyMap.get?_flatStep hk, flatFields, h.mentioned?_filter hkeep]
  congr 1
  funext v
  exact isFlatField_eq_isFlat hk v

/-- Under canonical names the flat parameters of a video are the same step. -/
theorem flatParams_eq_flatStep (hm : m.Canonical) (hT : T.ParametersOnly)
    (hsame : ∀ k ∈ Parameter.names, m.get? k = T.mentioned? k) :
    Config.flatParams m = T.flatStep := by
  refine Step.ext_names fun k hk => ?_
  rw [(hT.spelledOnce k).get?_flatStep hk, ← hsame k hk]
  apply Option.ext
  intro v
  rw [Config.get?_flatParams hm, Option.filter_eq_some_iff]

end PropertyMap

/-! ## Videos -/

/-- A video with some parameters, an account and an identifier, each under its own key. -/
def Props.ofParameters (T : PropertyMap) (cloudKey cloud idKey id : String) : Props where
  attributes := (T.insert cloudKey (.str cloud)).insert idKey (.str id)

theorem mem_configNames_of_control {k : String} (hk : k ∈ controlNames) : k ∈ configNames :=
  List.mem_append_left _ hk

/-- No control is a transformation parameter. -/
theorem Parameter.notMem_controlNames {k : String} (hk : k ∈ names) : k ∉ controlNames := by
  intro hcontrol
  have hname := canonicalName?_names k hk
  rw [canonicalName?_controls k hcontrol] at hname
  cases hname

theorem Config.property_text {m : PropertyMap} {k s : String} (h : m.get? k = some (.str s)) :
    property m k none (fun v => some <$> textOf k v) = .ok (some s) := by
  rw [property, h]
  rfl

theorem Config.nonBlank_of_allBlank {s : String} (h : Text.allBlank s = false) (cause : Cause) :
    nonBlank cause (some s) = .ok s := by
  simp [nonBlank, h]

section

variable {T : PropertyMap} (hT : T.ParametersOnly) {cloudKey cloud idKey id : String}
include hT

/-- **A video with nothing but parameters.** Only the explicit steps can fail to be read. -/
theorem Config.ofProperties_of_parameters {m : PropertyMap} (hm : m.Canonical)
    (hget : ∀ k ∈ configNames, m.get? k =
      if k = "public_id" then some (.str id)
      else if k = "cloud_name" then some (.str cloud) else T.mentioned? k)
    (hcloud : Text.allBlank cloud = false) (hid : Text.allBlank id = false) :
    ofProperties m [] = (fun chain => {
      asset := ⟨cloud, id, .video, none⟩, secure := false, formats := [], params := T.flatStep,
      chain, overrides := .empty, poster := none }) <$> T.mentionedChain := by
  have habsent : ∀ {α : Type} (k : String) (absent : α) (read : Json → Except Error α),
      k ∈ controlNames → k ≠ "public_id" → k ≠ "cloud_name" →
        property m k absent read = .ok absent := by
    intro α k absent read hk hne hne'
    rw [property, hget k (mem_configNames_of_control hk), if_neg hne, if_neg hne',
      hT.mentioned?_control hk rfl]
  -- the account and the identifier are no parameters
  have hparam : ∀ k ∈ Parameter.names, m.get? k = T.mentioned? k := by
    intro k hk
    have hne : ∀ n ∈ controlNames, k ≠ n := fun n hn heq =>
      Parameter.notMem_controlNames hk (heq ▸ hn)
    rw [hget k (List.mem_append_right _ hk), if_neg (hne _ (by decide)),
      if_neg (hne _ (by decide))]
  have hchain : property m "transformation" [] chainOf = T.mentionedChain := by
    rw [property, hparam _ PosterAsset.transformation_mem_names]
    rfl
  have hcloudName : m.get? "cloud_name" = some (.str cloud) :=
    hget _ (mem_configNames_of_control (by decide))
  have hpublicId : m.get? "public_id" = some (.str id) :=
    hget _ (mem_configNames_of_control (by decide))
  unfold ofProperties
  rw [property_text hcloudName, property_text hpublicId, hchain,
    PropertyMap.flatParams_eq_flatStep hm hT hparam]
  -- the six other controls are absent
  iterate 6 rw [habsent _ _ _ (by decide) (by decide) (by decide)]
  cases T.mentionedChain with
  | error e => rfl
  | ok chain =>
    simp [bind, Except.bind, nonBlank_of_allBlank hcloud, nonBlank_of_allBlank hid, pure,
      Except.pure]

/-- What is read of a video with the parameters, an account and an identifier. -/
theorem Props.get?_ofParameters (hcloudKey : Name.fold cloudKey = Name.fold "cloud_name")
    (hidKey : Name.fold idKey = Name.fold "public_id") {k : String} (hk : k ∈ configNames) :
    (((ofParameters T cloudKey cloud idKey id).mergedConfig .empty).erase "fallback").get? k =
      if k = "public_id" then some (.str id)
      else if k = "cloud_name" then some (.str cloud) else T.mentioned? k := by
  have hcloud : "cloud_name" ∈ controlNames := by decide
  have hid : "public_id" ∈ controlNames := by decide
  have hcloudName := mem_configNames_of_control hcloud
  have hpublicId := mem_configNames_of_control hid
  rw [PropertyMap.get?_erase]
  split
  next hfallback =>
    have hcontrol : "fallback" ∈ controlNames := by decide
    rw [hfallback, if_neg (by decide), if_neg (by decide), hT.mentioned?_control hcontrol rfl]
  next =>
    -- neither of the two is mentioned by the parameters
    have hfresh : (T.insert cloudKey (.str cloud)).mentioned? "public_id" = none := by
      rw [PropertyMap.mentioned?_insert hcloudName hcloudKey (hT.mentioned?_control hcloud rfl)
        hpublicId, if_neg (by decide), hT.mentioned?_control hid rfl]
    rw [get?_mergedConfig, Classified.get?_config_eq_mentioned? hk, ofParameters,
      PropertyMap.mentioned?_insert hpublicId hidKey hfresh hk,
      PropertyMap.mentioned?_insert hcloudName hcloudKey (hT.mentioned?_control hcloud rfl) hk]
    exact Option.or_none

end

/-! ## Posters -/

/-- Under the name of the chain a field is faulty when its value cannot be read as explicit
steps. -/
theorem PosterAsset.faultyField_chain_iff {key : String} {v : Json} {e : Error}
    (hkey : Name.fold key = "transformation") :
    FaultyField (key, v) e ↔ Config.chainOf v = .error e := by
  rw [← addField_eq_error_iff (p := {}), Config.chainOf]
  by_cases hchain : Chain.isChain v = true
  · have hadd : addField {} key v = (fun chain => { chain }) <$> Chain.ofJson v := by
      simp [addField, hkey, hchain]
    rw [hadd, if_pos hchain]
    cases Chain.ofJson v <;> simp
  · simp [addField, hkey, hchain]

namespace PropertyMap

open PosterAsset

variable {T : PropertyMap} (hT : T.ParametersOnly) {key id : String}
  (hkey : Name.fold key = Name.fold "public_id")
include hT hkey

/-- Only a chain can be faulty. -/
theorem transformation_of_faultyField {f : String × Json} {e : Error}
    (hmem : f ∈ (T.insert key (.str id)).entries) (hf : FaultyField f e) :
    f ∈ T.entries ∧ Name.fold f.1 = "transformation" := by
  rcases mem_insert_iff.mp hmem with rfl | ⟨-, hmem⟩
  · -- an identifier is neither a resource type nor a chain
    cases hf with
    | resourceType hname => exact absurd (hname.symm.trans hkey) (by decide)
  · refine ⟨hmem, ?_⟩
    cases hf with
    | chainItem hname => exact hname
    | resourceType hname _ =>
      have hspells := hname.trans (by decide : _ = Name.fold "resource_type")
      have hnone := hT.mentioned?_control (by decide) hspells
      rw [(hT.spelledOnce _).mentioned?_eq hmem rfl] at hnone
      cases hnone

theorem firstFault_of_parameters {e : Error} :
    FirstFault (T.insert key (.str id)).entries e ↔ T.mentionedChain = .error e := by
  have hread : ∀ e', FirstFault (T.insert key (.str id)).entries e' →
      T.mentionedChain = .error e' := by
    rintro e' ⟨before, f, after, hentries, -, hf⟩
    have hmem : f ∈ (T.insert key (.str id)).entries := by
      rw [hentries]
      exact List.mem_append_right before List.mem_cons_self
    obtain ⟨hmem, hname⟩ := transformation_of_faultyField hT hkey hmem hf
    have hvalue := (hT.spelledOnce _).mentioned?_eq hmem (hname.trans fold_transformation.symm)
    rw [mentionedChain, hvalue]
    exact (faultyField_chain_iff hname).mp hf
  refine ⟨hread e, fun h => ?_⟩
  -- the chain cannot be read, so some field is the first that cannot; and that is the chain again
  have hfaulty : ¬ ∀ f ∈ (T.insert key (.str id)).entries, Readable f := by
    cases hvalue : T.mentioned? "transformation" with
    | none =>
      rw [mentionedChain, hvalue] at h
      cases h
    | some v =>
      rw [mentionedChain, hvalue] at h
      obtain ⟨⟨name, w⟩, hmem, hfold, rfl⟩ := exists_of_mentioned? hvalue
      have hne : name ≠ key := by
        rintro rfl
        exact absurd (hfold.symm.trans hkey) (by decide)
      have hfault := (faultyField_chain_iff (hfold.trans fold_transformation)).mpr h
      intro hreadable
      obtain ⟨q, hq⟩ := isOk_addField_iff (p := {}).mpr
        (hreadable (name, w) (mem_insert_iff.mpr (.inr ⟨hne, hmem⟩)))
      rw [addField_eq_error_iff.mpr hfault] at hq
      cases hq
  obtain ⟨e', he'⟩ := Poster.exists_firstFault hfaulty
  rw [hread e' he'] at h
  rw [← Except.error.inj h]
  exact he'

theorem spelledOnce_of_parameters (n : String) : (T.insert key (.str id)).SpelledOnce n :=
  (hT.spelledOnce n).insert fun hspells =>
    hT.mentioned?_control (by decide) (hspells.symm.trans hkey)

theorem mentioned?_of_parameters {k : String} (hk : k ∈ configNames) :
    (T.insert key (.str id)).mentioned? k =
      if k = "public_id" then some (.str id) else T.mentioned? k :=
  mentioned?_insert (mem_configNames_of_control (by decide)) hkey
    (hT.mentioned?_control (by decide) rfl) hk

theorem mentioned?_parameter {k : String} (hk : k ∈ Parameter.names) :
    (T.insert key (.str id)).mentioned? k = T.mentioned? k := by
  rw [mentioned?_of_parameters hT hkey (List.mem_append_right _ hk), if_neg]
  rintro rfl
  exact Parameter.notMem_controlNames hk (by decide)

/-- The identifier is the only control. -/
theorem ofControls_of_parameters :
    ofControls (T.insert key (.str id)).latest? = { publicId := id } := by
  have hvalue : ∀ n ∈ writtenNames, (T.insert key (.str id)).latest? n =
      if n = "public_id" then some (.str id) else none := by
    intro n hn
    have hcontrol : ∀ n ∈ writtenNames, n ∈ controlNames := by decide
    rw [(spelledOnce_of_parameters hT hkey n).latest?_eq,
      mentioned?_of_parameters hT hkey (mem_configNames_of_control (hcontrol n hn)),
      hT.mentioned?_control (hcontrol n hn) rfl]
  rw [ofControls_congr hvalue]
  rfl

theorem described_of_parameters {chain : List Step} (h : T.mentionedChain = .ok chain) :
    described (T.insert key (.str id)) = { publicId := id, params := T.flatStep, chain } := by
  have honce : ∀ n, (T.insert key (.str id)).SpelledOnce n := spelledOnce_of_parameters hT hkey
  have hflat : (T.insert key (.str id)).flatStep = T.flatStep := by
    refine Step.ext_names fun k hk => ?_
    rw [(honce k).get?_flatStep hk, (hT.spelledOnce k).get?_flatStep hk,
      mentioned?_parameter hT hkey hk]
  have hchain : Chain.explicit (T.insert key (.str id)).latestChain? = chain := by
    have honce := honce "transformation"
    rw [latestChain?_eq, (honce.filter _).latest?_eq, honce.mentioned?_filter fun _ _ => rfl,
      Chain.explicit_filter, mentioned?_parameter hT hkey transformation_mem_names,
      explicit_of_mentionedChain h]
  rw [described, ofControls_of_parameters hT hkey, hflat, hchain]
  rfl

end PropertyMap

/-- **A poster with nothing but parameters.** Only the explicit steps can fail to be read. -/
theorem Poster.ofProperty_of_parameters {T : PropertyMap} (hT : T.ParametersOnly) {key id : String}
    (hkey : Name.fold key = Name.fold "public_id") (hid : Text.allBlank id = false) :
    ofProperty (T.insert key (.str id)).toJson =
      (fun chain => some (.asset { publicId := id, params := T.flatStep, chain })) <$>
        T.mentionedChain := by
  cases hchain : T.mentionedChain with
  | error e =>
    exact ofProperty_toJson_eq_error_iff.mpr
      ((PropertyMap.firstFault_of_parameters hT hkey).mpr hchain)
  | ok chain =>
    have hread : ∀ f ∈ (T.insert key (.str id)).entries, PosterAsset.Readable f := by
      by_contra hfaulty
      obtain ⟨e, he⟩ := exists_firstFault hfaulty
      rw [(PropertyMap.firstFault_of_parameters hT hkey).mp he] at hchain
      cases hchain
    rw [PosterAsset.ofProperty_toJson hread, PropertyMap.described_of_parameters hT hkey hchain,
      PosterAsset.shown, if_neg (by simp [hid])]
    rfl

/-! ## Both -/

/-- **Videos and posters read parameters alike.** Take any parameters in any spelling, with any
values, and no two of them of one name. As properties of a video with an account and an identifier
they fail exactly when they do as fields of a poster with an identifier, and with the same error.
Otherwise the video and the poster have the same steps: that of the flat parameters unless there are
none, then the explicit ones. So both are compiled to the same segments.

An account or an identifier that is blank is as good as none, so these are not. -/
theorem Poster.reads_like_video {T : PropertyMap} (hT : T.ParametersOnly)
    {cloudKey cloud idKey id posterKey posterId : String}
    (hcloudKey : Name.fold cloudKey = Name.fold "cloud_name")
    (hidKey : Name.fold idKey = Name.fold "public_id")
    (hposterKey : Name.fold posterKey = Name.fold "public_id")
    (hcloud : Text.trim cloud ≠ "") (hid : Text.trim id ≠ "")
    (hposterId : Text.trim posterId ≠ "") :
    let video := Props.ofParameters T cloudKey cloud idKey id
    let poster := (T.insert posterKey (.str posterId)).toJson
    (∀ e, video.resolve .empty = .error e ↔ ofProperty poster = .error e) ∧
    ∀ r, video.resolve .empty = .ok r → ∃ a, ofProperty poster = .ok (some (.asset a)) ∧
      a.steps = r.config.sharedChain ∧
      a.steps = Chain.withHead T.flatStep (Chain.explicit (T.mentioned? "transformation")) ∧
      a.steps.filterMap Step.segment? = r.config.sharedChain.filterMap Step.segment? := by
  intro video poster
  have hblank : ∀ s, Text.trim s ≠ "" → Text.allBlank s = false := fun s hs =>
    Bool.eq_false_iff.mpr fun h => hs ((Text.trim_eq_empty_iff s).mpr h)
  have hposter := ofProperty_of_parameters hT hposterKey (hblank _ hposterId)
  have hcanonical : ((video.mergedConfig .empty).erase "fallback").Canonical :=
    (Props.canonical_mergedConfig video []).erase "fallback"
  have hvideo := Config.ofProperties_of_parameters hT hcanonical
    (fun _ => Props.get?_ofParameters hT hcloudKey hidKey) (hblank _ hcloud) (hblank _ hid)
  have hresolve : video.resolve .empty = (fun config => Resolved.mk config
      (Classified.ofMap video.attributes).passthrough
      (Props.fallbackText? ((video.mergedConfig .empty).get? "fallback") [])) <$>
        Config.ofProperties ((video.mergedConfig .empty).erase "fallback") [] :=
    (map_eq_pure_bind ..).symm
  rw [hvideo, Functor.map_map] at hresolve
  rw [hresolve, hposter]
  -- both are made from the explicit steps, and fail only where these do
  cases hchain : T.mentionedChain with
  | error e =>
    refine ⟨fun e' => by simp, fun r hr => ?_⟩
    cases hr
  | ok chain =>
    refine ⟨fun e' => by simp, fun r hr => ?_⟩
    obtain rfl := Except.ok.inj hr
    rw [PropertyMap.explicit_of_mentionedChain hchain]
    exact ⟨_, rfl, rfl, rfl, rfl⟩

/-- A width in a spelling of its own, and a chain whose second step says nothing. -/
def Poster.someParameters : PropertyMap := .ofList [("WIDTH", .ofNat 100),
  ("transformation", .arr [.obj [("angle", .ofNat 20)], .obj []])]

/-- Both readers find the flat step and the explicit ones, and both compile two segments. -/
theorem Poster.reads_like_video_someParameters :
    ∃ r a, (Props.ofParameters someParameters "cloudName" "demo" "publicId" "dog").resolve .empty =
        .ok r ∧
      ofProperty (someParameters.insert "public_id" (.str "cat")).toJson = .ok (some (.asset a)) ∧
      a.steps = r.config.sharedChain ∧
      a.steps.filterMap Step.segment? = ["w_100", "a_20"] := by
  have hparameters : someParameters.ParametersOnly := ⟨by decide +kernel, by decide +kernel⟩
  obtain ⟨-, hsteps⟩ := @reads_like_video someParameters hparameters "cloudName" "demo" "publicId"
    "dog" "public_id" "cat" (by decide) (by decide) rfl (by decide +kernel) (by decide +kernel)
    (by decide +kernel)
  have hok : ((Props.ofParameters someParameters "cloudName" "demo" "publicId" "dog").resolve
      .empty).isOk = true := by
    decide +kernel
  cases hr : (Props.ofParameters someParameters "cloudName" "demo" "publicId" "dog").resolve
      .empty with
  | error e =>
    rw [hr] at hok
    cases hok
  | ok r =>
    obtain ⟨a, ha, hshared, hchain, -⟩ := hsteps r hr
    exact ⟨r, a, rfl, ha, hshared, hchain ▸ by decide +kernel⟩

end VideoDelivery
