import VideoDelivery.Proofs.Poster.RoundTrip
import VideoDelivery.Proofs.Poster.Unidentified
import VideoDelivery.Proofs.Transformation.History

/-!
# Which spelling counts in a poster object

Everywhere else the canonical spelling of a name counts, and otherwise the first one. The fields of
a poster object are read one on top of the other, so of a control the last spelling in key order
counts: a name in small letters without underscores comes after the canonical one. The name
`transformation` is read twice, once for the chain and once for the parameter. Only the other
parameters go by the rule.

So a poster object does not always say what it says with one entry for each name
(`PropertyMap.settled`), and this module tells when it does.

* `PosterAsset.eq_of_addFields` — **what a poster object is read as**.
* `Poster.read_by_rule_iff` — **when a poster object goes by the rule**; it does if no control is
  spelled twice, and neither is `transformation`.
* `Poster.not_read_by_rule` — an identifier in two spellings does not go by it.
-/

namespace VideoDelivery

/-! ## Parts of a map -/

theorem filter_eq_self {α : Type} {x : Option α} {keep : α → Bool} (h : ∀ a, keep a = true) :
    x.filter keep = x := by
  cases x with
  | none => rfl
  | some a => exact Option.filter_some_pos (h a)

namespace PropertyMap

variable {m : PropertyMap} {n : String}

/-- The map with the entries that are to be kept. -/
def filter (m : PropertyMap) (keep : String × Json → Bool) : PropertyMap :=
  ⟨m.entries.filter keep, m.sorted.filter _⟩

theorem get?_filter (m : PropertyMap) (keep : String × Json → Bool) (k : String) :
    (m.filter keep).get? k = (m.get? k).filter fun v => keep (k, v) := by
  apply Option.ext
  intro v
  rw [← mem_entries_iff, Option.filter_eq_some_iff, ← mem_entries_iff]
  exact List.mem_filter

theorem SpelledOnce.filter (h : m.SpelledOnce n) (keep : String × Json → Bool) :
    (m.filter keep).SpelledOnce n :=
  fun e he f hf => h e (List.mem_of_mem_filter he) f (List.mem_of_mem_filter hf)

/-- The last spelling is then the mentioned one. -/
theorem SpelledOnce.latest?_eq (h : m.SpelledOnce n) : m.latest? n = m.mentioned? n := by
  cases hlatest : m.latest? n with
  | some v =>
    obtain ⟨e, he, hspells, rfl⟩ := exists_of_lastValue hlatest
    rw [h.mentioned?_eq he (of_decide_eq_true hspells)]
  | none =>
    cases hmentioned : m.mentioned? n with
    | none => rfl
    | some v =>
      obtain ⟨e, he, hfold, rfl⟩ := exists_of_mentioned? hmentioned
      have hasked : PosterAsset.spells (Name.fold n) e = true := decide_eq_true hfold
      have hlast : m.latest? n = some e.2 :=
        lastValue_of_unique he hasked fun f hf hspells =>
          h f hf e he (of_decide_eq_true hspells) hfold
      rw [hlatest] at hlast
      cases hlast

/-- What is kept of a name that is spelled once is a matter of its value. -/
theorem SpelledOnce.mentioned?_filter (h : m.SpelledOnce n) {keep : String × Json → Bool}
    (hkeep : ∀ e, Name.fold e.1 = Name.fold n → keep e = keep (n, e.2)) :
    (m.filter keep).mentioned? n = (m.mentioned? n).filter fun v => keep (n, v) := by
  apply Option.ext
  intro v
  rw [Option.filter_eq_some_iff]
  constructor
  · intro hv
    obtain ⟨e, he, hfold, rfl⟩ := exists_of_mentioned? hv
    obtain ⟨he, hkept⟩ := List.mem_filter.mp he
    rw [hkeep e hfold] at hkept
    exact ⟨h.mentioned?_eq he hfold, hkept⟩
  · rintro ⟨hv, hkept⟩
    obtain ⟨e, he, hfold, rfl⟩ := exists_of_mentioned? hv
    rw [← hkeep e hfold] at hkept
    exact (h.filter keep).mentioned?_eq (List.mem_filter.mpr ⟨he, hkept⟩) hfold

end PropertyMap

theorem Chain.explicit_filter (x : Option Json) : explicit (x.filter isChain) = explicit x := by
  cases x with
  | none => rfl
  | some v =>
    cases hchain : isChain v with
    | true => rw [Option.filter_some_pos hchain]
    | false =>
      rw [Option.filter_some_neg hchain, explicit_of_not_isChain hchain]
      rfl

/-! ## What is read -/

namespace PropertyMap

/-- The value that the chain of a poster is read from: the last chain in key order. -/
def latestChain? (m : PropertyMap) : Option Json := lastValue PosterAsset.isChainField m.entries

/-- The fields that are left to the flat parameters of a poster. -/
def flatFields (m : PropertyMap) : PropertyMap := m.filter PosterAsset.isFlatField

/-- The step of the flat parameters. -/
def flatStep (m : PropertyMap) : Step := Step.empty.insertAll m.flatFields.entries

end PropertyMap

namespace PosterAsset

/-- The controls of an asset, by the values that their names have. -/
def ofControls (value : String → Option Json) : PosterAsset where
  cloudName := (value "cloud_name").bind Json.asString?
  publicId := ((value "public_id").bind Json.asString?).getD ""
  resourceType := (value "resource_type").bind typeIn?
  format := (value "format").bind Json.asString?
  secure := (value "secure").bind Json.asBool?

theorem ofControls_congr {value value' : String → Option Json}
    (h : ∀ n ∈ writtenNames, value n = value' n) : ofControls value = ofControls value' := by
  simp only [ofControls, h "cloud_name" (by decide), h "public_id" (by decide),
    h "resource_type" (by decide), h "format" (by decide), h "secure" (by decide)]

theorem withSteps_ofControls_inj {value value' : String → Option Json} {s s' : Step}
    {chain chain' : List Step} :
    (ofControls value).withSteps s chain = (ofControls value').withSteps s' chain' ↔
      ofControls value = ofControls value' ∧ s = s' ∧ chain = chain' := by
  constructor
  · intro h
    -- without its steps the asset is back to the controls
    exact ⟨congrArg (fun p => p.withSteps .empty []) h, congrArg params h,
      congrArg PosterAsset.chain h⟩
  · rintro ⟨hcontrols, rfl, rfl⟩
    rw [hcontrols]

/-- The asset that the fields of an object describe: of each control the last spelling counts, and
of several chains the last one. -/
def described (m : PropertyMap) : PosterAsset :=
  (ofControls m.latest?).withSteps m.flatStep (Chain.explicit m.latestChain?)

/-- **What a poster object is read as.** -/
theorem eq_of_addFields {m : PropertyMap} {q : PosterAsset}
    (h : addFields {} m.entries = .ok q) : q = described m := by
  have hgathered := gathered_of_addFields h
  -- a control without a value is none, like one whose value is of another kind
  have hbind : ∀ {α : Type} (x : Option Json) (f : Json → Option α),
      (x.map f).getD none = x.bind f := by
    intro α x f
    cases x <;> rfl
  apply PosterAsset.ext
  case cloudName =>
    rw [hgathered.cloudName, hbind, ← m.latest?_eq "cloud_name" (by decide)]
    rfl
  case publicId =>
    rw [hgathered.publicId, ← m.latest?_eq "public_id" (by decide)]
    show _ = ((m.latest? "public_id").bind Json.asString?).getD ""
    cases m.latest? "public_id" <;> rfl
  case resourceType =>
    rw [hgathered.resourceType, hbind, ← m.latest?_eq "resource_type" (by decide)]
    rfl
  case format =>
    rw [hgathered.format, hbind, ← m.latest?_eq "format" (by decide)]
    rfl
  case secure =>
    rw [hgathered.secure, hbind, ← m.latest?_eq "secure" (by decide)]
    rfl
  case params => exact hgathered.params
  case chain =>
    rw [hgathered.chain]
    show _ = Chain.explicit (lastValue isChainField m.entries)
    cases lastValue isChainField m.entries <;> rfl

/-- What is shown of an asset: the asset, or the first frame if it has no identifier. -/
def shown (p : PosterAsset) : Poster :=
  if Text.allBlank p.publicId then .frame p.secure else .asset p

/-- Assets are shown alike when both have no identifier and one scheme, or when they are equal. -/
theorem shown_eq_iff {p q : PosterAsset} : p.shown = q.shown ↔
    (Text.allBlank p.publicId = true ∧ Text.allBlank q.publicId = true ∧ p.secure = q.secure) ∨
      (Text.allBlank p.publicId = false ∧ p = q) := by
  unfold shown
  constructor
  · intro h
    split at h
    next hp =>
      split at h
      next hq => exact .inl ⟨hp, hq, Poster.frame.inj h⟩
      next => cases h
    next hp =>
      split at h
      next => cases h
      next => exact .inr ⟨Bool.eq_false_iff.mpr hp, Poster.asset.inj h⟩
  · rintro (⟨hp, hq, hsecure⟩ | ⟨-, rfl⟩)
    · rw [if_pos hp, if_pos hq, hsecure]
    · rfl

theorem ofProperty_toJson {m : PropertyMap} (h : ∀ e ∈ m.entries, Readable e) :
    Poster.ofProperty m.toJson = .ok (some (described m).shown) := by
  obtain ⟨q, hq⟩ := isOk_addFields_iff (p := {}).mpr h
  refine Poster.ofProperty_obj_eq_ok.mpr ⟨q, ?_, ?_⟩
  · rw [PropertyMap.ofList_entries]
    exact hq
  · rw [eq_of_addFields hq]
    rfl

/-- Whether a field can be read is no matter of its spelling. -/
theorem readable_congr {key key' : String} {v : Json} (hfold : Name.fold key = Name.fold key')
    (h : Readable (key, v)) : Readable (key', v) where
  resourceType hname := h.resourceType (hfold.trans hname)
  chain hchain := by
    obtain ⟨hname, hvalue⟩ := isChainField_iff.mp hchain
    exact h.chain (isChainField_iff.mpr ⟨hfold.trans hname, hvalue⟩)

end PosterAsset

/-! ## One entry for each name -/

namespace PosterAsset

variable {k n : String}

/-- The names that the fields of a poster object can have. -/
def names : List String := writtenNames ++ Parameter.names

theorem mem_names_iff : k ∈ names ↔ Known k := by
  rw [names, List.mem_append, Known]
  exact or_congr_right ⟨Parameter.canonicalName?_names k, Parameter.mem_names_of_canonicalName?⟩

theorem known_transformation : Known "transformation" := .inr canonicalName?_transformation

theorem transformation_mem_names : "transformation" ∈ Parameter.names :=
  Parameter.mem_names_of_canonicalName? canonicalName?_transformation

theorem known_of_mem_names (hk : k ∈ Parameter.names) : Known k :=
  .inr (Parameter.canonicalName?_names k hk)

/-- A parameter is left to the flat parameters unless it is a chain. -/
theorem isFlatField_of_parameter (hk : k ∈ Parameter.names) {name : String}
    (hfold : Name.fold name = Name.fold k) (v : Json) :
    isFlatField (name, v) = !isChainField (name, v) := by
  have hcontrol : Name.fold name ∉ controlFolds := by
    rw [hfold, (known_of_mem_names hk).mem_controlFolds_iff]
    intro hwritten
    have hparam := Parameter.canonicalName?_names k hk
    rw [canonicalName?_writtenNames k hwritten] at hparam
    cases hparam
  have hcontains : controlFolds.contains (Name.fold name) = false :=
    Bool.eq_false_iff.mpr (mt List.contains_iff_mem.mp hcontrol)
  rw [isFlatField, hcontains]
  rfl

/-- Every other parameter is left to the flat parameters whatever its value is. -/
theorem isFlatField_of_ne (hk : k ∈ Parameter.names) (hne : k ≠ "transformation") {name : String}
    (hfold : Name.fold name = Name.fold k) (v : Json) : isFlatField (name, v) = true := by
  rw [isFlatField_of_parameter hk hfold, Bool.not_eq_true', Bool.eq_false_iff]
  intro hchain
  have hname := (isChainField_iff.mp hchain).1
  exact hne ((known_of_mem_names hk).eq_transformation (hfold.symm.trans hname))

/-- A value of the name of the chain is left to the flat parameters if it is no chain. -/
theorem isFlatField_transformation {name : String}
    (hfold : Name.fold name = Name.fold "transformation") (v : Json) :
    isFlatField (name, v) = !Chain.isChain v := by
  rw [isFlatField_of_parameter transformation_mem_names hfold, isChainField,
    decide_eq_true (hfold.trans fold_transformation), Bool.true_and]

end PosterAsset

namespace PropertyMap

open PosterAsset

variable {m : PropertyMap} {k n : String}

/-- The map with one entry for each name of a field that it mentions, by the rule for spellings.
What is no field in any spelling is left out; it is not read either. -/
def settled (m : PropertyMap) : PropertyMap :=
  empty.insertAll (names.filterMap fun k => (m.mentioned? k).map fun v => (k, v))

theorem get?_settled (m : PropertyMap) (k : String) :
    m.settled.get? k = if k ∈ names then m.mentioned? k else none := by
  rw [settled, get?_insertAll_filterMap]
  split
  · exact Option.or_none
  · rfl

theorem get?_settled_of_known (hk : Known k) : m.settled.get? k = m.mentioned? k := by
  rw [get?_settled, if_pos (mem_names_iff.mpr hk)]

theorem mem_settled_iff {e : String × Json} :
    e ∈ m.settled.entries ↔ Known e.1 ∧ m.mentioned? e.1 = some e.2 := by
  rw [mem_entries_iff, get?_settled, ← mem_names_iff]
  split
  next hk => exact (and_iff_right hk).symm
  next hk => simp [hk]

theorem known_of_mem_settled {e : String × Json} (he : e ∈ m.settled.entries) : Known e.1 :=
  (mem_settled_iff.mp he).1

/-- What can be read of a map can be read of the settled one. -/
theorem readable_settled (h : ∀ e ∈ m.entries, Readable e) :
    ∀ e ∈ m.settled.entries, Readable e := by
  rintro ⟨k, v⟩ he
  obtain ⟨⟨name, w⟩, hf, hfold, rfl⟩ := exists_of_mentioned? (mem_settled_iff.mp he).2
  exact readable_congr hfold (h (name, w) hf)

/-- A control of the settled map has the value that is mentioned. -/
theorem latest?_settled (hn : n ∈ writtenNames) : m.settled.latest? n = m.mentioned? n := by
  rw [latest?, lastValue_spells_of_known (fun _ => known_of_mem_settled) (.inl hn) rfl,
    get?_settled_of_known (.inl hn)]

/-- The chains of a map are what is left of it under the name of the chain. -/
theorem latestChain?_eq (m : PropertyMap) : m.latestChain? =
    (m.filter fun e => Chain.isChain e.2).latest? "transformation" := by
  rw [latest?, fold_transformation, filter, lastValue_filter, latestChain?]
  congr 1
  funext e
  rw [isChainField, spells, Bool.and_comm]

theorem latestChain?_settled (m : PropertyMap) :
    m.settled.latestChain? = (m.mentioned? "transformation").filter Chain.isChain := by
  have hknown : ∀ e ∈ (m.settled.filter fun e => Chain.isChain e.2).entries, Known e.1 :=
    fun e he => known_of_mem_settled (List.mem_of_mem_filter he)
  rw [latestChain?_eq, latest?, lastValue_spells_of_known hknown known_transformation rfl,
    get?_filter, get?_settled_of_known known_transformation]

theorem get?_flatStep (hk : k ∈ Parameter.names) (m : PropertyMap) :
    m.flatStep.params.get? k = m.flatFields.mentioned? k := by
  rw [flatStep, Step.get?_empty_insertAll hk, Step.given?_entries]

/-- A flat parameter of the settled map has the value that is mentioned, if that is left to it. -/
theorem get?_flatStep_settled (hk : k ∈ Parameter.names) (m : PropertyMap) :
    m.settled.flatStep.params.get? k = (m.mentioned? k).filter fun v => isFlatField (k, v) := by
  have hone : ∀ e ∈ m.settled.flatFields.entries, Name.fold e.1 = Name.fold k → e.1 = k := by
    intro e he hfold
    have hknown : Known e.1 := known_of_mem_settled (List.mem_of_mem_filter he)
    exact hknown.eq_of_known (known_of_mem_names hk) hfold
  rw [get?_flatStep hk, mentioned?_eq_get? hone, flatFields, get?_filter,
    get?_settled_of_known (known_of_mem_names hk)]

/-- So has that of the map itself, unless it has the name of the chain. -/
theorem get?_flatStep_of_ne (hk : k ∈ Parameter.names) (hne : k ≠ "transformation")
    (m : PropertyMap) : m.flatStep.params.get? k = m.mentioned? k := by
  rw [get?_flatStep hk]
  refine mentioned?_congr fun name hfold => ?_
  rw [flatFields, get?_filter, filter_eq_self (isFlatField_of_ne hk hne hfold)]

/-- The flat parameters are those of the settled map when the named transformation is the one that
is mentioned, and is none if that is a chain. -/
theorem flatStep_settled_iff : m.settled.flatStep = m.flatStep ↔
    (m.mentioned? "transformation").filter (!Chain.isChain ·) =
      m.flatFields.mentioned? "transformation" := by
  have hsettled : m.settled.flatStep.params.get? "transformation" =
      (m.mentioned? "transformation").filter (!Chain.isChain ·) := by
    rw [get?_flatStep_settled transformation_mem_names]
    congr 1
    funext v
    exact isFlatField_transformation rfl v
  rw [← get?_flatStep transformation_mem_names, ← hsettled]
  constructor
  · intro h
    rw [h]
  · intro h
    -- every other parameter goes by the rule, so the two can differ under this name only
    refine Step.ext_names fun k hk => ?_
    by_cases hne : k = "transformation"
    · rw [hne, h]
    · rw [get?_flatStep_settled hk, get?_flatStep_of_ne hk hne,
        filter_eq_self (isFlatField_of_ne hk hne rfl)]

end PropertyMap

/-- What the settled object describes: each name has the value that is mentioned. -/
theorem PosterAsset.described_settled (m : PropertyMap) : described m.settled =
    (ofControls m.mentioned?).withSteps m.settled.flatStep
      (Chain.explicit (m.mentioned? "transformation")) := by
  rw [described, ofControls_congr fun n hn => m.latest?_settled hn, m.latestChain?_settled,
    Chain.explicit_filter]

/-! ## When an object goes by the rule -/

/-- A poster object goes by the rule for spellings: what the last spellings say is what the object
with one entry for each name says. -/
inductive PropertyMap.ReadByRule (m : PropertyMap) : Prop
  /-- Both fail, and with the same error. -/
  | fault {e : Error} (hfault : PosterAsset.FirstFault m.entries e)
    (hsettled : PosterAsset.FirstFault m.settled.entries e)
  /-- Neither has an identifier, and they have one scheme. -/
  | frame (hread : ∀ e ∈ m.entries, PosterAsset.Readable e)
    (hlatest : Text.allBlank (PosterAsset.ofControls m.latest?).publicId = true)
    (hmentioned : Text.allBlank (PosterAsset.ofControls m.mentioned?).publicId = true)
    (hsecure : (PosterAsset.ofControls m.mentioned?).secure =
      (PosterAsset.ofControls m.latest?).secure)
  /-- The controls are the same, the chain is, and so is the named transformation. -/
  | asset (hread : ∀ e ∈ m.entries, PosterAsset.Readable e)
    (hid : Text.allBlank (PosterAsset.ofControls m.mentioned?).publicId = false)
    (hcontrols : PosterAsset.ofControls m.mentioned? = PosterAsset.ofControls m.latest?)
    (hchain : Chain.explicit (m.mentioned? "transformation") = Chain.explicit m.latestChain?)
    (hnamed : (m.mentioned? "transformation").filter (!Chain.isChain ·) =
      m.flatFields.mentioned? "transformation")

namespace Poster

open PosterAsset

variable {m : PropertyMap}

theorem ofProperty_toJson_eq_error_iff {e : Error} :
    ofProperty m.toJson = .error e ↔ FirstFault m.entries e := by
  rw [PropertyMap.toJson, ofProperty_obj_eq_error_iff, PropertyMap.ofList_entries]

theorem exists_firstFault (h : ¬ ∀ e ∈ m.entries, Readable e) : ∃ e, FirstFault m.entries e := by
  cases hread : ofProperty m.toJson with
  | error e => exact ⟨e, ofProperty_toJson_eq_error_iff.mp hread⟩
  | ok r =>
    have hok := isOk_ofProperty_obj_iff.mp ⟨r, hread⟩
    rw [PropertyMap.ofList_entries] at hok
    exact absurd hok h

theorem not_firstFault (h : ∀ e ∈ m.entries, Readable e) {e : Error} :
    ¬ FirstFault m.entries e := by
  intro hfault
  rw [← ofProperty_toJson_eq_error_iff, ofProperty_toJson h] at hfault
  cases hfault

/-- An object that can be read says what the settled one says when it goes by the rule. -/
theorem shown_settled_iff (h : ∀ e ∈ m.entries, Readable e) :
    (described m.settled).shown = (described m).shown ↔ m.ReadByRule := by
  rw [shown_eq_iff, described_settled, described, withSteps_ofControls_inj,
    PropertyMap.flatStep_settled_iff]
  constructor
  · rintro (⟨hmentioned, hlatest, hsecure⟩ | ⟨hid, hcontrols, hnamed, hchain⟩)
    · exact .frame h hlatest hmentioned hsecure
    · exact .asset h hid hcontrols hchain hnamed
  · rintro (⟨hfault, -⟩ | ⟨-, hlatest, hmentioned, hsecure⟩ | ⟨-, hid, hcontrols, hchain, hnamed⟩)
    · exact absurd hfault (not_firstFault h)
    · exact .inl ⟨hmentioned, hlatest, hsecure⟩
    · exact .inr ⟨hid, hcontrols, hnamed, hchain⟩

theorem ofProperty_settled_iff :
    ofProperty m.settled.toJson = ofProperty m.toJson ↔ m.ReadByRule := by
  by_cases hread : ∀ e ∈ m.entries, Readable e
  · rw [ofProperty_toJson hread, ofProperty_toJson (PropertyMap.readable_settled hread),
      ← shown_settled_iff hread, Except.ok.injEq, Option.some.injEq]
  · -- the object fails, so the settled one has to fail with the same error
    obtain ⟨e, he⟩ := exists_firstFault hread
    rw [ofProperty_toJson_eq_error_iff.mpr he, ofProperty_toJson_eq_error_iff]
    constructor
    · exact .fault he
    · rintro (⟨he', hsettled⟩ | ⟨hread', -⟩ | ⟨hread', -⟩)
      · -- an object fails with one error
        have hsame := (ofProperty_toJson_eq_error_iff.mpr he).symm.trans
          (ofProperty_toJson_eq_error_iff.mpr he')
        rw [Except.error.inj hsame]
        exact hsettled
      · exact absurd hread' hread
      · exact absurd hread' hread

/-! ## Objects without competing spellings -/

/-- No control has competing spellings, and the chain has none. -/
def Uncontested (m : PropertyMap) : Prop :=
  ∀ n ∈ "transformation" :: writtenNames, m.SpelledOnce n

/-- A field that cannot be read is then one of the settled object too. -/
theorem readable_of_settled (h : Uncontested m) (hsettled : ∀ e ∈ m.settled.entries, Readable e) :
    ∀ e ∈ m.entries, Readable e := by
  intro e he
  have hread : ∀ n ∈ "transformation" :: writtenNames, Name.fold e.1 = Name.fold n →
      Readable e := by
    intro n hn hfold
    have hknown : Known n := by
      rcases List.mem_cons.mp hn with rfl | hn
      · exact known_transformation
      · exact .inl hn
    have hvalue : m.mentioned? n = some e.2 := (h n hn).mentioned?_eq he hfold
    have hmem : (n, e.2) ∈ m.settled.entries := PropertyMap.mem_settled_iff.mpr ⟨hknown, hvalue⟩
    exact readable_congr hfold.symm (hsettled (n, e.2) hmem)
  constructor
  case resourceType =>
    intro hname
    have hfold : Name.fold e.1 = Name.fold "resource_type" := hname.trans (by decide)
    exact (hread "resource_type" (by decide) hfold).resourceType hname
  case chain =>
    intro hchain
    have hname := (isChainField_iff.mp hchain).1
    exact (hread "transformation" (by decide) (hname.trans fold_transformation.symm)).chain hchain

/-- An object that can be read goes by the rule if nothing is contested. -/
theorem readByRule_of_uncontested (h : Uncontested m) (hread : ∀ e ∈ m.entries, Readable e) :
    m.ReadByRule := by
  have hcontrols : ofControls m.mentioned? = ofControls m.latest? :=
    ofControls_congr fun n hn => (h n (List.mem_cons_of_mem _ hn)).latest?_eq.symm
  have honce := h "transformation" List.mem_cons_self
  -- the identifier decides whether the steps matter
  cases hid : Text.allBlank (ofControls m.mentioned?).publicId with
  | true => exact .frame hread (hcontrols ▸ hid) hid (by rw [hcontrols])
  | false =>
    refine .asset hread hid hcontrols ?_ ?_
    · -- the last chain is the only value of its name, if that is a chain
      rw [PropertyMap.latestChain?_eq, (honce.filter _).latest?_eq,
        honce.mentioned?_filter fun _ _ => rfl, Chain.explicit_filter]
    · have hflat : ∀ e, Name.fold e.1 = Name.fold "transformation" →
          isFlatField e = isFlatField ("transformation", e.2) := by
        intro e hfold
        rw [isFlatField_transformation rfl]
        exact isFlatField_transformation hfold e.2
      rw [PropertyMap.flatFields, honce.mentioned?_filter hflat]
      congr 1
      funext v
      exact (isFlatField_transformation rfl v).symm

theorem toOption_ofProperty_settled (h : Uncontested m) :
    (ofProperty m.settled.toJson).toOption = (ofProperty m.toJson).toOption := by
  by_cases hread : ∀ e ∈ m.entries, Readable e
  · rw [ofProperty_settled_iff.mpr (readByRule_of_uncontested h hread)]
  · -- both fail, but the first faulty field need not be the same one
    obtain ⟨e, he⟩ := exists_firstFault hread
    obtain ⟨e', he'⟩ := exists_firstFault (mt (readable_of_settled h) hread)
    rw [ofProperty_toJson_eq_error_iff.mpr he, ofProperty_toJson_eq_error_iff.mpr he']
    rfl

/-- **When a poster object goes by the rule for spellings.** The object with one entry for each
name, which has the value of the canonical spelling or else of the first one in key order, is read
as the object itself exactly in these cases. If no control is spelled twice, and neither is
`transformation`, one of the two is read when the other is, and as the same poster. -/
theorem read_by_rule_iff (m : PropertyMap) :
    (ofProperty m.settled.toJson = ofProperty m.toJson ↔ m.ReadByRule) ∧
    (Uncontested m → (ofProperty m.settled.toJson).toOption = (ofProperty m.toJson).toOption) :=
  ⟨ofProperty_settled_iff, toOption_ofProperty_settled⟩

/-- **An identifier in two spellings does not go by the rule**: the later one is read, and it is not
the canonical one. -/
theorem not_read_by_rule : ¬ ∀ m : PropertyMap,
    (ofProperty m.settled.toJson).toOption = (ofProperty m.toJson).toOption := by
  intro hrule
  let m : PropertyMap := ⟨[("public_id", .str "a"), ("publicid", .str "b")], by decide⟩
  have hdiffer : ((ofProperty m.settled.toJson).toOption == (ofProperty m.toJson).toOption) =
      false := by decide +kernel
  rw [hrule m, beq_self_eq_true] at hdiffer
  cases hdiffer

end Poster

end VideoDelivery
