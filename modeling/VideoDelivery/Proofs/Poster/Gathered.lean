import VideoDelivery.Proofs.Video.Forms

/-!
# What a poster asset is gathered from

The fields of a poster object are read one after the other, each on top of what was read before. In
the end every part of the asset comes from the last field that is a spelling of it, and the flat
parameters from all fields that are nothing else (`PosterAsset.Gathered`). Whether the fields can be
read at all is a matter of each field by itself (`PosterAsset.Readable`).

* `PosterAsset.gathered_of_addFields` — **what the parts of an asset come from**.
* `PosterAsset.isOk_addFields_iff` — **which fields can be read**.
-/

namespace VideoDelivery

/-! ## The last field asked for -/

/-- The value of the last field that is asked for. -/
def lastValue (asked : String × Json → Bool) (fields : List (String × Json)) : Option Json :=
  (fields.reverse.find? asked).map Prod.snd

theorem lastValue_singleton (asked : String × Json → Bool) (e : String × Json) :
    lastValue asked [e] = if asked e then some e.2 else none := by
  unfold lastValue
  cases h : asked e <;> simp [h]

theorem lastValue_append (asked : String × Json → Bool) (xs ys : List (String × Json)) :
    lastValue asked (xs ++ ys) = (lastValue asked ys).or (lastValue asked xs) := by
  rw [lastValue, List.reverse_append, List.find?_append, Option.map_or]
  rfl

theorem lastValue_eq_none {asked : String × Json → Bool} {fields : List (String × Json)}
    (h : ∀ e ∈ fields, asked e = false) : lastValue asked fields = none := by
  have hnone : fields.reverse.find? asked = none := by
    rw [List.find?_eq_none]
    intro e he
    rw [h e (List.mem_reverse.mp he)]
    exact Bool.false_ne_true
  rw [lastValue, hnone]
  rfl

theorem lastValue_of_unique {asked : String × Json → Bool} {fields : List (String × Json)}
    {e : String × Json} (hmem : e ∈ fields) (hasked : asked e = true)
    (hunique : ∀ f ∈ fields, asked f = true → f = e) : lastValue asked fields = some e.2 := by
  have hsome : (fields.reverse.find? asked).isSome = true := by
    rw [List.find?_isSome]
    exact ⟨e, List.mem_reverse.mpr hmem, hasked⟩
  obtain ⟨f, hf⟩ := Option.isSome_iff_exists.mp hsome
  have hfmem := List.mem_reverse.mp (List.mem_of_find?_eq_some hf)
  have hfe := hunique f hfmem (List.find?_some hf)
  rw [lastValue, hf, hfe]
  rfl

theorem exists_of_lastValue {asked : String × Json → Bool} {fields : List (String × Json)}
    {v : Json} (h : lastValue asked fields = some v) :
    ∃ e ∈ fields, asked e = true ∧ e.2 = v := by
  obtain ⟨e, he, hv⟩ := Option.map_eq_some_iff.mp h
  exact ⟨e, List.mem_reverse.mp (List.mem_of_find?_eq_some he), List.find?_some he, hv⟩

theorem lastValue_filter (keep asked : String × Json → Bool) (fields : List (String × Json)) :
    lastValue asked (fields.filter keep) = lastValue (fun e => keep e && asked e) fields := by
  rw [lastValue, ← List.filter_reverse, List.find?_filter]
  simp [lastValue]

/-- A default that is replaced twice. -/
theorem getD_map_or {α β : Type} (f : α → β) (x y : Option α) (b : β) :
    ((y.or x).map f).getD b = (y.map f).getD ((x.map f).getD b) := by
  cases y <;> rfl

namespace PosterAsset

/-! ## Fields -/

/-- The folds of the controls of a poster. -/
def controlFolds : List String := ["cloudname", "publicid", "resourcetype", "format", "secure"]

/-- The field is a spelling of a name with this fold. -/
def spells (name : String) (e : String × Json) : Bool := Name.fold e.1 = name

/-- The field holds the chain of the poster. -/
def isChainField (e : String × Json) : Bool :=
  Name.fold e.1 = "transformation" && Chain.isChain e.2

/-- The field is left to the flat parameters. -/
def isFlatField (e : String × Json) : Bool :=
  !controlFolds.contains (Name.fold e.1) && !isChainField e

/-- The resource type that a value names, if it is a text that names one. -/
def typeIn? (v : Json) : Option ResourceType :=
  v.asString?.bind fun token => (ResourceType.ofToken token).toOption

/-- What the parts of an asset `q` come from when fields are read on top of `p`. -/
structure Gathered (p : PosterAsset) (fields : List (String × Json)) (q : PosterAsset) : Prop where
  cloudName : q.cloudName =
    ((lastValue (spells "cloudname") fields).map Json.asString?).getD p.cloudName
  publicId : q.publicId =
    ((lastValue (spells "publicid") fields).map fun v => v.asString?.getD "").getD p.publicId
  resourceType : q.resourceType =
    ((lastValue (spells "resourcetype") fields).map typeIn?).getD p.resourceType
  format : q.format = ((lastValue (spells "format") fields).map Json.asString?).getD p.format
  secure : q.secure = ((lastValue (spells "secure") fields).map Json.asBool?).getD p.secure
  params : q.params = p.params.insertAll (fields.filter isFlatField)
  chain : q.chain =
    ((lastValue isChainField fields).map fun v => Chain.explicit (some v)).getD p.chain

theorem Gathered.refl (p : PosterAsset) : Gathered p [] p :=
  ⟨rfl, rfl, rfl, rfl, rfl, rfl, rfl⟩

theorem Gathered.trans {p q r : PosterAsset} {xs ys : List (String × Json)}
    (h : Gathered p xs q) (h' : Gathered q ys r) : Gathered p (xs ++ ys) r := by
  constructor
  case cloudName => rw [h'.cloudName, h.cloudName, lastValue_append, getD_map_or]
  case publicId => rw [h'.publicId, h.publicId, lastValue_append, getD_map_or]
  case resourceType => rw [h'.resourceType, h.resourceType, lastValue_append, getD_map_or]
  case format => rw [h'.format, h.format, lastValue_append, getD_map_or]
  case secure => rw [h'.secure, h.secure, lastValue_append, getD_map_or]
  case chain => rw [h'.chain, h.chain, lastValue_append, getD_map_or]
  case params =>
    rw [h'.params, h.params, List.filter_append]
    exact List.foldl_append.symm

/-! ## One field -/

/-- What a single field sets, by the name it spells. -/
theorem addField_eq_ok {p q : PosterAsset} {key : String} {v : Json}
    (h : p.addField key v = .ok q) :
    (Name.fold key = "cloudname" ∧ q = { p with cloudName := v.asString? }) ∨
    (Name.fold key = "publicid" ∧ q = { p with publicId := v.asString?.getD "" }) ∨
    (Name.fold key = "resourcetype" ∧ q = { p with resourceType := typeIn? v }) ∨
    (Name.fold key = "format" ∧ q = { p with format := v.asString? }) ∨
    (Name.fold key = "secure" ∧ q = { p with secure := v.asBool? }) ∨
    (isChainField (key, v) = true ∧ q = { p with chain := Chain.explicit (some v) }) ∨
    (isFlatField (key, v) = true ∧ q = { p with params := p.params.insert key v }) := by
  unfold addField at h
  dsimp only at h
  by_cases hcloud : Name.fold key = "cloudname"
  · rw [if_pos hcloud] at h
    exact .inl ⟨hcloud, (Except.ok.inj h).symm⟩
  rw [if_neg hcloud] at h
  by_cases hid : Name.fold key = "publicid"
  · rw [if_pos hid] at h
    exact .inr (.inl ⟨hid, (Except.ok.inj h).symm⟩)
  rw [if_neg hid] at h
  by_cases htype : Name.fold key = "resourcetype"
  · rw [if_pos htype] at h
    refine .inr (.inr (.inl ⟨htype, ?_⟩))
    unfold typeIn?
    cases htoken : v.asString? with
    | none =>
      rw [htoken] at h
      exact (Except.ok.inj h).symm
    | some token =>
      rw [htoken] at h
      obtain ⟨t, ht, h⟩ := bind_eq_ok.mp h
      rw [Option.bind_some, ht]
      exact (Except.ok.inj h).symm
  rw [if_neg htype] at h
  by_cases hformat : Name.fold key = "format"
  · rw [if_pos hformat] at h
    exact .inr (.inr (.inr (.inl ⟨hformat, (Except.ok.inj h).symm⟩)))
  rw [if_neg hformat] at h
  by_cases hsecure : Name.fold key = "secure"
  · rw [if_pos hsecure] at h
    exact .inr (.inr (.inr (.inr (.inl ⟨hsecure, (Except.ok.inj h).symm⟩))))
  rw [if_neg hsecure] at h
  -- no control is spelled, so it is the chain or a flat parameter
  by_cases hchain : Name.fold key = "transformation" ∧ Chain.isChain v = true
  · rw [if_pos hchain] at h
    obtain ⟨steps, hsteps, h⟩ := bind_eq_ok.mp h
    have hread : Config.chainOf v = .ok steps := by
      rw [Config.chainOf, if_pos hchain.2, hsteps]
    refine .inr (.inr (.inr (.inr (.inr (.inl ⟨?_, ?_⟩)))))
    · simp [isChainField, hchain]
    · rw [← Config.explicit_of_chainOf hread]
      exact (Except.ok.inj h).symm
  · rw [if_neg hchain] at h
    refine .inr (.inr (.inr (.inr (.inr (.inr ⟨?_, (Except.ok.inj h).symm⟩)))))
    have hcontrol : controlFolds.contains (Name.fold key) = false := by
      simp [controlFolds, hcloud, hid, htype, hformat, hsecure]
    have hother : isChainField (key, v) = false := by
      rw [isChainField, ← Bool.not_eq_true, Bool.and_eq_true, decide_eq_true_iff]
      exact hchain
    rw [isFlatField, hcontrol, hother]
    rfl

theorem isChainField_iff {e : String × Json} :
    isChainField e = true ↔ Name.fold e.1 = "transformation" ∧ Chain.isChain e.2 = true := by
  rw [isChainField, Bool.and_eq_true, decide_eq_true_iff]

theorem isFlatField_iff {e : String × Json} :
    isFlatField e = true ↔ Name.fold e.1 ∉ controlFolds ∧ isChainField e = false := by
  rw [isFlatField, Bool.and_eq_true, Bool.not_eq_true', Bool.not_eq_true', ← Bool.not_eq_true,
    List.contains_iff_mem]

theorem gathered_of_addField {p q : PosterAsset} {key : String} {v : Json}
    (h : p.addField key v = .ok q) : Gathered p [(key, v)] q := by
  rcases addField_eq_ok h with ⟨hname, rfl⟩ | ⟨hname, rfl⟩ | ⟨hname, rfl⟩ | ⟨hname, rfl⟩ |
    ⟨hname, rfl⟩ | ⟨hchain, rfl⟩ | ⟨hflat, rfl⟩
  -- a control sets its own part and is nothing else
  iterate 5
    · constructor <;>
        simp [lastValue_singleton, spells, isChainField, isFlatField, controlFolds, hname,
          Step.insertAll]
  · have hname : Name.fold key = "transformation" := (isChainField_iff.mp hchain).1
    constructor <;>
      simp [lastValue_singleton, spells, isFlatField, hchain, hname, Step.insertAll]
  · obtain ⟨hcontrol, hchain⟩ := isFlatField_iff.mp hflat
    simp only [controlFolds, List.mem_cons, List.not_mem_nil, or_false, not_or] at hcontrol
    constructor <;>
      simp [lastValue_singleton, spells, hflat, hchain, hcontrol, Step.insertAll]

/-! ## All fields -/

/-- **What the parts of an asset come from**: each from the last field that spells it. -/
theorem gathered_of_addFields {p q : PosterAsset} {fields : List (String × Json)}
    (h : p.addFields fields = .ok q) : Gathered p fields q := by
  induction fields generalizing p with
  | nil =>
    obtain rfl := Except.ok.inj h
    exact .refl p
  | cons e rest ih =>
    obtain ⟨next, hnext, hrest⟩ := bind_eq_ok.mp h
    exact (gathered_of_addField hnext).trans (ih hrest)

/-- The field can be read: a resource type that is a text names one, and a chain has objects for
its items. -/
structure Readable (e : String × Json) : Prop where
  resourceType : Name.fold e.1 = "resourcetype" → ∀ s, e.2 = .str s → ResourceType.Named s
  chain : isChainField e = true → Config.WellFormed "transformation" e.2

theorem isOk_addField_iff {p : PosterAsset} {key : String} {v : Json} :
    (∃ q, p.addField key v = .ok q) ↔ Readable (key, v) := by
  by_cases htype : Name.fold key = "resourcetype"
  · have hchain : isChainField (key, v) = false := by simp [isChainField, htype]
    -- the resource type is no chain, so its own condition is all there is
    have hreadable : Readable (key, v) ↔ ∀ s, v = .str s → ResourceType.Named s := by
      constructor
      · exact fun h => h.resourceType htype
      · exact fun h => ⟨fun _ => h, fun hc => absurd hc (by simp [hchain])⟩
    have hadd : (∃ q, p.addField key v = .ok q) ↔
        ∀ s, v = .str s → ∃ t, ResourceType.ofToken s = .ok t := by
      cases v <;> simp [addField, htype, Json.asString?, isOk_map_iff]
    rw [hadd, hreadable]
    simp only [ResourceType.isOk_ofToken_iff]
  by_cases hchain : isChainField (key, v) = true
  · have hname : Name.fold key = "transformation" := (isChainField_iff.mp hchain).1
    have hvalue : Chain.isChain v = true := (isChainField_iff.mp hchain).2
    -- and the chain is no resource type
    have hreadable : Readable (key, v) ↔ Config.WellFormed "transformation" v := by
      constructor
      · exact fun h => h.chain hchain
      · exact fun h => ⟨fun hn => absurd hn htype, fun _ => h⟩
    have hadd : (∃ q, p.addField key v = .ok q) ↔ ∃ steps, Config.chainOf v = .ok steps := by
      simp [addField, hname, hvalue, isOk_map_iff, Config.chainOf]
    rw [hadd, hreadable, Config.isOk_chainOf_iff]
  · -- every other field sets its part whatever its value is
    have hreadable : Readable (key, v) :=
      ⟨fun hn => absurd hn htype, fun hc => absurd hc hchain⟩
    have hadd : ∃ q, p.addField key v = .ok q := by
      unfold addField
      dsimp only
      rw [if_neg htype, if_neg (mt isChainField_iff.mpr hchain)]
      repeat' split
      all_goals exact ⟨_, rfl⟩
    exact ⟨fun _ => hreadable, fun _ => hadd⟩

/-- **Which fields can be read.** -/
theorem isOk_addFields_iff {p : PosterAsset} {fields : List (String × Json)} :
    (∃ q, p.addFields fields = .ok q) ↔ ∀ e ∈ fields, Readable e := by
  induction fields generalizing p with
  | nil => exact ⟨fun _ => nofun, fun _ => ⟨p, rfl⟩⟩
  | cons e rest ih =>
    obtain ⟨key, v⟩ := e
    rw [List.forall_mem_cons, ← isOk_addField_iff (p := p)]
    simp only [addFields, bind_eq_ok]
    constructor
    · rintro ⟨q, next, hnext, hrest⟩
      exact ⟨⟨next, hnext⟩, ih.mp ⟨q, hrest⟩⟩
    · rintro ⟨⟨next, hnext⟩, hrest⟩
      obtain ⟨q, hq⟩ := ih.mpr hrest
      exact ⟨q, next, hnext, hq⟩

end PosterAsset

end VideoDelivery
