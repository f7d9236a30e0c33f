import VideoDelivery.Proofs.Poster.Gathered
import VideoDelivery.Proofs.Property.Respelling

/-!
# Respelled values

Four properties have values with names in them: a chain and the overrides hold keys of steps, a
poster object has keys of its own, and formats are named by tokens. For each of them, `Alike` says
which values are the same in another spelling, and a theorem says that both are read alike.

Of chains and requested formats even the error is the same. Overrides and posters are read in key
order, so a value that cannot be read may fail at another place in another spelling; there only the
results are compared.

* `Chain.Alike.chainOf_eq`, `Format.Alike.listOfJson_eq` — chains and requested formats.
* `Overrides.Alike.toOption_ofProperty` — overrides.
* `Poster.Alike.toOption_ofProperty` — posters.
-/

namespace VideoDelivery

/-! ## Chains -/

/-- The values are one, or the objects of one step in two spellings. -/
inductive Step.Alike : Json → Json → Prop where
  | same (v : Json) : Alike v v
  | fields {xs ys : List (String × Json)} (h : Step.Respelled xs ys) : Alike (.obj xs) (.obj ys)

/-- The values are one step in two spellings, or lists of such. -/
inductive Chain.Alike : Json → Json → Prop where
  | step {v w : Json} (h : Step.Alike v w) : Alike v w
  | list {vs ws : List Json} (h : List.Forall₂ Step.Alike vs ws) : Alike (.arr vs) (.arr ws)

theorem Step.Alike.isObject_eq {v w : Json} (h : Step.Alike v w) : v.isObject = w.isObject := by
  cases h <;> rfl

theorem Step.Alike.stepOfJson?_eq {v w : Json} (h : Step.Alike v w) :
    Child.stepOfJson? v = Child.stepOfJson? w := by
  cases h with
  | same v => rfl
  | fields h =>
    show some (ofFields _) = some (ofFields _)
    rw [ofFields_congr h]

theorem Chain.Alike.isChain_eq {v w : Json} (h : Chain.Alike v w) : isChain v = isChain w := by
  cases h with
  | step h =>
    cases h <;> rfl
  | list h =>
    show List.any _ _ = List.any _ _
    induction h with
    | nil => rfl
    | cons hitem _ ih => rw [List.any_cons, List.any_cons, hitem.isObject_eq, ih]

/-- A value that is no chain has no names that could be respelled. -/
theorem Chain.Alike.eq_of_not_isChain {v w : Json} (h : Chain.Alike v w)
    (hchain : isChain v = false) : v = w := by
  cases h with
  | step h =>
    cases h with
    | same v => rfl
    -- objects are chains
    | fields h => cases hchain
  | list h =>
    replace hchain : List.any _ _ = false := hchain
    congr 1
    induction h with
    | nil => rfl
    | cons hitem _ ih =>
      rw [List.any_cons, Bool.or_eq_false_iff] at hchain
      rw [ih hchain.2]
      cases hitem with
      | same v => rfl
      | fields h => cases hchain.1

theorem Chain.ofItems_congr {vs ws : List Json} (h : List.Forall₂ Step.Alike vs ws) (index : Nat) :
    ofItems index vs = ofItems index ws := by
  induction h generalizing index with
  | nil => rfl
  | @cons v w vs ws hitem _ ih =>
    cases hitem with
    | same v => cases v <;> simp only [ofItems, ih]
    | fields h => simp only [ofItems, ih, Step.ofFields_congr h]

/-- A chain is read alike in every spelling. -/
theorem Chain.Alike.chainOf_eq {v w : Json} (h : Chain.Alike v w) :
    Config.chainOf v = Config.chainOf w := by
  unfold Config.chainOf
  rw [h.isChain_eq]
  have hread : ofJson v = ofJson w := by
    cases h with
    | step h =>
      cases h with
      | same v => rfl
      | fields h =>
        show Except.ok [Step.ofFields _] = Except.ok [Step.ofFields _]
        rw [Step.ofFields_congr h]
    | list h => exact ofItems_congr h 0
  rw [hread]

theorem Chain.Alike.explicit_eq {v w : Json} (h : Chain.Alike v w) :
    explicit (some v) = explicit (some w) := by
  cases h with
  | step h =>
    cases h with
    | same v => rfl
    | fields h =>
      show [Step.ofFields _] = [Step.ofFields _]
      rw [Step.ofFields_congr h]
  | list h =>
    show List.filterMap Child.stepOfJson? _ = List.filterMap Child.stepOfJson? _
    induction h with
    | nil => rfl
    | cons hitem _ ih => rw [List.filterMap_cons, List.filterMap_cons, hitem.stepOfJson?_eq, ih]

/-! ## Requested formats -/

/-- The values are one, or texts that are one token up to blanks around it and ASCII case. -/
inductive Format.AlikeToken : Json → Json → Prop where
  | same (v : Json) : AlikeToken v v
  | token {s t : String} (h : Text.normalToken s = Text.normalToken t) :
    AlikeToken (.str s) (.str t)

/-- The values are one token in two spellings, or lists of such. -/
inductive Format.Alike : Json → Json → Prop where
  | token {v w : Json} (h : AlikeToken v w) : Alike v w
  | list {vs ws : List Json} (h : List.Forall₂ AlikeToken vs ws) : Alike (.arr vs) (.arr ws)

theorem Format.ofToken_congr {s t : String} (h : Text.normalToken s = Text.normalToken t) :
    ofToken s = ofToken t := by
  unfold ofToken ofToken?
  rw [h]

theorem Format.AlikeToken.ofItem_eq {v w : Json} (h : AlikeToken v w) : ofItem v = ofItem w := by
  cases h with
  | same v => rfl
  | token h => rw [ofItem, ofItem, ofToken_congr h]

/-- Requested formats are read alike in every spelling. -/
theorem Format.Alike.listOfJson_eq {v w : Json} (h : Format.Alike v w) :
    listOfJson v = listOfJson w := by
  cases h with
  | token h =>
    cases h with
    | same v => rfl
    | token h => simp only [listOfJson, ofToken_congr h]
  | list h =>
    show List.mapM ofItem _ = List.mapM ofItem _
    induction h with
    | nil => rfl
    | cons hitem _ ih => rw [List.mapM_cons, List.mapM_cons, hitem.ofItem_eq, ih]

/-! ## Overrides -/

/-- The keys of overrides are tokens of formats, and their values are steps. -/
def Overrides.spelling : SpellingRule where
  name? key := (Format.ofToken? key).map Format.token
  key a b := Text.normalToken a = Text.normalToken b
  value _ := Step.Alike

/-- The values are one, or the objects of overrides in two spellings. -/
inductive Overrides.Alike : Json → Json → Prop where
  | same (v : Json) : Alike v v
  | fields {xs ys : List (String × Json)}
    (h : Respelled spelling (PropertyMap.ofList xs).entries (PropertyMap.ofList ys).entries) :
    Alike (.obj xs) (.obj ys)

/-- Where all finds are the same, the first one is any of them. -/
theorem findSome?_eq_some_iff_of_unique {α β : Type} {g : α → Option β} {xs : List α} {b : β}
    (h : ∀ x ∈ xs, ∀ y ∈ xs, ∀ b c, g x = some b → g y = some c → b = c) :
    xs.findSome? g = some b ↔ ∃ x ∈ xs, g x = some b := by
  constructor
  · exact List.exists_of_findSome?_eq_some
  · rintro ⟨x, hx, hb⟩
    have hsome : (xs.findSome? g).isSome = true :=
      List.findSome?_isSome_iff.mpr ⟨x, hx, Option.isSome_of_eq_some hb⟩
    obtain ⟨c, hc⟩ := Option.isSome_iff_exists.mp hsome
    obtain ⟨y, hy, hyc⟩ := List.exists_of_findSome?_eq_some hc
    rw [hc, h x hx y hy b c hb hyc]

theorem Overrides.given_eq_some {f : Format} {e : String × Json} {step : Step}
    (h : given f e = some step) :
    spelling.name? e.1 = some f.token ∧ Child.stepOfJson? e.2 = some step := by
  unfold given at h
  split at h
  next htoken =>
    refine ⟨?_, h⟩
    have hread := Format.ofToken_eq_ok.mpr htoken
    unfold Format.ofToken at hread
    -- the key is the token of some format, and it is read as that format
    cases hname : Format.ofToken? e.1 with
    | none =>
      rw [hname] at hread
      cases hread
    | some g =>
      rw [hname] at hread
      rw [← Except.ok.inj hread]
      simp [spelling, hname]
  next => cases h

/-- Respelled overrides give each format the same step. -/
theorem Overrides.own_eq {xs ys : List (String × Json)}
    (h : Respelled spelling (PropertyMap.ofList xs).entries (PropertyMap.ofList ys).entries)
    (f : Format) : own (some (.obj xs)) f = own (some (.obj ys)) f := by
  -- a format is named once, so its step does not depend on which field is found first
  have hunique : ∀ {fields : List (String × Json)}, Alone spelling.name? fields →
      ∀ e ∈ fields.reverse, ∀ e' ∈ fields.reverse, ∀ s t, given f e = some s →
        given f e' = some t → s = t := by
    intro fields halone e he e' he' s t hs ht
    obtain ⟨hname, hs⟩ := given_eq_some hs
    obtain ⟨hname', ht⟩ := given_eq_some ht
    obtain rfl := halone e (List.mem_reverse.mp he) e' (List.mem_reverse.mp he') _ hname hname'
    exact Option.some.inj (hs.symm.trans ht)
  -- and a field gives it the step that its partner gives it
  have hgiven : ∀ {e e' : String × Json}, spelling.key e.1 e'.1 → Step.Alike e.2 e'.2 →
      given f e = given f e' := by
    intro e e' hkey hvalue
    rw [given, given, show Text.normalToken e.1 = Text.normalToken e'.1 from hkey,
      hvalue.stepOfJson?_eq]
  apply Option.ext
  intro step
  show List.findSome? (given f) _ = some step ↔ List.findSome? (given f) _ = some step
  rw [findSome?_eq_some_iff_of_unique (hunique h.alone),
    findSome?_eq_some_iff_of_unique (hunique h.alone')]
  constructor
  · rintro ⟨e, he, hstep⟩
    obtain ⟨e', he', hkey, hvalue⟩ := h.forth e (List.mem_reverse.mp he)
    exact ⟨e', List.mem_reverse.mpr he', (hgiven hkey hvalue).symm.trans hstep⟩
  · rintro ⟨e', he', hstep⟩
    obtain ⟨e, he, hkey, hvalue⟩ := h.back e' (List.mem_reverse.mp he')
    exact ⟨e, List.mem_reverse.mpr he, (hgiven hkey hvalue).trans hstep⟩

/-- Respelled overrides have their form alike. -/
theorem Overrides.wellFormed_iff {xs ys : List (String × Json)}
    (h : Respelled spelling (PropertyMap.ofList xs).entries (PropertyMap.ofList ys).entries) :
    Config.WellFormed "source_transformation" (.obj xs) ↔
      Config.WellFormed "source_transformation" (.obj ys) := by
  have hfields : ∀ fields, Config.WellFormed "source_transformation" (.obj fields) ↔
      ∀ e ∈ (PropertyMap.ofList fields).entries, Format.Named e.1 ∧ e.2.isObject = true := by
    intro fields
    simp [Config.WellFormed]
  rw [hfields, hfields]
  constructor
  · intro hall e' he'
    obtain ⟨e, he, hkey, hvalue⟩ := h.back e' he'
    obtain ⟨hnamed, hobject⟩ := hall e he
    rw [Format.Named, ← show Text.normalToken e.1 = Text.normalToken e'.1 from hkey,
      ← hvalue.isObject_eq]
    exact ⟨hnamed, hobject⟩
  · intro hall e he
    obtain ⟨e', he', hkey, hvalue⟩ := h.forth e he
    obtain ⟨hnamed, hobject⟩ := hall e' he'
    rw [Format.Named, show Text.normalToken e.1 = Text.normalToken e'.1 from hkey,
      hvalue.isObject_eq]
    exact ⟨hnamed, hobject⟩

/-- **Overrides are read alike in every spelling.** -/
theorem Overrides.Alike.toOption_ofProperty {v w : Json} (h : Overrides.Alike v w) :
    (ofProperty v).toOption = (ofProperty w).toOption := by
  cases h with
  | same v => rfl
  | fields h =>
    apply toOption_eq
    · rw [isOk_ofProperty_iff, isOk_ofProperty_iff, wellFormed_iff h]
    · intro o o' ho ho'
      apply ext_get?
      intro f
      rw [get?_ofProperty ho f, get?_ofProperty ho' f, own_eq h f]

/-! ## Posters -/

/-- What a key of a poster names: a control by its fold, or a transformation parameter. -/
def Poster.fieldName? (key : String) : Option String :=
  if Name.fold key ∈ PosterAsset.controlFolds then some (Name.fold key)
  else Parameter.canonicalName? key

/-- The keys of a poster may be respelled, and so may its chain. -/
def Poster.spelling : SpellingRule where
  name? := fieldName?
  key a b := Name.fold a = Name.fold b
  value a v w := if Name.fold a = "transformation" then Chain.Alike v w else v = w

/-- The values are one, or the objects of one poster in two spellings. -/
inductive Poster.Alike : Json → Json → Prop where
  | same (v : Json) : Alike v v
  | fields {xs ys : List (String × Json)}
    (h : Respelled spelling (PropertyMap.ofList xs).entries (PropertyMap.ofList ys).entries) :
    Alike (.obj xs) (.obj ys)

/-- Where the fields asked for are single and related, so are their values. -/
theorem rel_lastValue {asked : String × Json → Bool} {R : Json → Json → Prop}
    {xs ys : List (String × Json)}
    (hxs : ∀ e ∈ xs, ∀ f ∈ xs, asked e = true → asked f = true → e = f)
    (hys : ∀ e ∈ ys, ∀ f ∈ ys, asked e = true → asked f = true → e = f)
    (hforth : ∀ e ∈ xs, asked e = true → ∃ f ∈ ys, asked f = true ∧ R e.2 f.2)
    (hback : ∀ f ∈ ys, asked f = true → ∃ e ∈ xs, asked e = true) :
    Option.Rel R (lastValue asked xs) (lastValue asked ys) := by
  by_cases hset : ∃ e ∈ xs, asked e = true
  · obtain ⟨e, he, hasked⟩ := hset
    obtain ⟨f, hf, hasked', hvalue⟩ := hforth e he hasked
    rw [lastValue_of_unique he hasked fun e' he' h => hxs e' he' e he h hasked,
      lastValue_of_unique hf hasked' fun f' hf' h => hys f' hf' f hf h hasked']
    exact .some hvalue
  · -- nothing is asked for on either side
    have hnone : ∀ e ∈ xs, asked e = false := fun e he =>
      Bool.eq_false_iff.mpr fun hasked => hset ⟨e, he, hasked⟩
    have hnone' : ∀ f ∈ ys, asked f = false := fun f hf =>
      Bool.eq_false_iff.mpr fun hasked => hset (hback f hf hasked)
    rw [lastValue_eq_none hnone, lastValue_eq_none hnone']
    exact .none

theorem map_eq_of_rel {α β : Type} {R : α → α → Prop} {x y : Option α} {f : α → β}
    (h : Option.Rel R x y) (hf : ∀ a b, R a b → f a = f b) : x.map f = y.map f := by
  cases h with
  | none => rfl
  | some hab => exact congrArg some (hf _ _ hab)

theorem PosterAsset.canonicalName?_transformation :
    Parameter.canonicalName? "transformation" = some "transformation" := by
  decide +kernel

namespace PosterAsset

theorem fieldName?_of_spells {name : String} (hcontrol : name ∈ controlFolds) {e : String × Json}
    (h : spells name e = true) : Poster.fieldName? e.1 = some name := by
  have hfold : Name.fold e.1 = name := of_decide_eq_true h
  rw [Poster.fieldName?, hfold, if_pos hcontrol]

theorem fieldName?_of_isChainField {e : String × Json} (h : isChainField e = true) :
    Poster.fieldName? e.1 = some "transformation" := by
  have hfold : Name.fold e.1 = "transformation" := (isChainField_iff.mp h).1
  have hname : Name.fold e.1 = Name.fold "transformation" := hfold.trans (by decide +kernel)
  rw [Poster.fieldName?, hfold, if_neg (by decide), Parameter.canonicalName?_congr hname,
    canonicalName?_transformation]

theorem isChainField_eq {e f : String × Json} (hkey : Poster.spelling.key e.1 f.1)
    (hvalue : Poster.spelling.value e.1 e.2 f.2) : isChainField e = isChainField f := by
  have hfold : Name.fold e.1 = Name.fold f.1 := hkey
  rw [isChainField, isChainField, ← hfold]
  by_cases hname : Name.fold e.1 = "transformation"
  · have halike : Chain.Alike e.2 f.2 := by simpa [Poster.spelling, hname] using hvalue
    rw [halike.isChain_eq]
  · rw [decide_eq_false hname]
    rfl

theorem isFlatField_eq {e f : String × Json} (hkey : Poster.spelling.key e.1 f.1)
    (hvalue : Poster.spelling.value e.1 e.2 f.2) : isFlatField e = isFlatField f := by
  rw [isFlatField, isFlatField, isChainField_eq hkey hvalue,
    show Name.fold e.1 = Name.fold f.1 from hkey]

/-- A flat parameter has nothing in it that could be respelled. -/
theorem value_eq_of_isFlatField {e f : String × Json} (hflat : isFlatField e = true)
    (hvalue : Poster.spelling.value e.1 e.2 f.2) : e.2 = f.2 := by
  by_cases hname : Name.fold e.1 = "transformation"
  · have halike : Chain.Alike e.2 f.2 := by simpa [Poster.spelling, hname] using hvalue
    apply halike.eq_of_not_isChain
    have hchain := (isFlatField_iff.mp hflat).2
    rw [isChainField, decide_eq_true hname, Bool.true_and] at hchain
    exact hchain
  · simpa [Poster.spelling, hname] using hvalue

theorem fieldName?_of_isFlatField {e : String × Json} (h : isFlatField e = true) :
    Poster.fieldName? e.1 = Parameter.canonicalName? e.1 := by
  rw [Poster.fieldName?, if_neg (isFlatField_iff.mp h).1]

theorem readable_of_readable {e f : String × Json} (hkey : Poster.spelling.key e.1 f.1)
    (hvalue : Poster.spelling.value e.1 e.2 f.2) : Readable e ↔ Readable f := by
  have hfold : Name.fold e.1 = Name.fold f.1 := hkey
  have hchain := isChainField_eq hkey hvalue
  by_cases hname : Name.fold e.1 = "transformation"
  · have halike : Chain.Alike e.2 f.2 := by simpa [Poster.spelling, hname] using hvalue
    -- the chain is no resource type
    have hne : Name.fold e.1 ≠ "resourcetype" := by
      rw [hname]
      decide
    have hform : Config.WellFormed "transformation" e.2 ↔
        Config.WellFormed "transformation" f.2 := by
      rw [← Config.isOk_chainOf_iff, ← Config.isOk_chainOf_iff, halike.chainOf_eq]
    constructor
    · exact fun h => ⟨fun htype => absurd (hfold.trans htype) hne,
        fun hc => hform.mp (h.chain (hchain.trans hc))⟩
    · exact fun h => ⟨fun htype => absurd htype hne,
        fun hc => hform.mpr (h.chain (hchain.symm.trans hc))⟩
  · -- every other value stays as it is
    have heq : e.2 = f.2 := by simpa [Poster.spelling, hname] using hvalue
    constructor
    · exact fun h => ⟨heq ▸ hfold ▸ h.resourceType, heq ▸ hchain ▸ h.chain⟩
    · exact fun h => ⟨heq ▸ hfold ▸ h.resourceType, heq ▸ hchain ▸ h.chain⟩

section Respelled

variable {xs ys : List (String × Json)} (h : Respelled Poster.spelling xs ys)
include h

/-- A control has one value in both. -/
theorem lastValue_spells_eq {name : String} (hcontrol : name ∈ controlFolds) :
    lastValue (spells name) xs = lastValue (spells name) ys := by
  have hsingle : ∀ {fields : List (String × Json)}, Alone Poster.fieldName? fields →
      ∀ e ∈ fields, ∀ f ∈ fields, spells name e = true → spells name f = true → e = f :=
    fun halone e he f hf hname hname' => halone e he f hf name
      (fieldName?_of_spells hcontrol hname) (fieldName?_of_spells hcontrol hname')
  have hspells : ∀ {e f : String × Json}, Poster.spelling.key e.1 f.1 →
      spells name e = spells name f := by
    intro e f hkey
    rw [spells, spells, show Name.fold e.1 = Name.fold f.1 from hkey]
  apply eq_of_rel_eq
  apply rel_lastValue (hsingle h.alone) (hsingle h.alone')
  · intro e he hname
    obtain ⟨f, hf, hkey, hvalue⟩ := h.forth e he
    refine ⟨f, hf, (hspells hkey).symm.trans hname, ?_⟩
    -- a control is not the chain, so its value stays as it is
    have hne : Name.fold e.1 ≠ "transformation" := by
      rw [show Name.fold e.1 = name from of_decide_eq_true hname]
      rintro rfl
      exact absurd hcontrol (by decide)
    simpa [Poster.spelling, hne] using hvalue
  · intro f hf hname
    obtain ⟨e, he, hkey, -⟩ := h.back f hf
    exact ⟨e, he, (hspells hkey).trans hname⟩

/-- The chain is the same in both. -/
theorem rel_lastValue_isChainField :
    Option.Rel Chain.Alike (lastValue isChainField xs) (lastValue isChainField ys) := by
  have hsingle : ∀ {fields : List (String × Json)}, Alone Poster.fieldName? fields →
      ∀ e ∈ fields, ∀ f ∈ fields, isChainField e = true → isChainField f = true → e = f :=
    fun halone e he f hf hchain hchain' => halone e he f hf "transformation"
      (fieldName?_of_isChainField hchain) (fieldName?_of_isChainField hchain')
  apply rel_lastValue (hsingle h.alone) (hsingle h.alone')
  · intro e he hchain
    obtain ⟨f, hf, hkey, hvalue⟩ := h.forth e he
    refine ⟨f, hf, (isChainField_eq hkey hvalue).symm.trans hchain, ?_⟩
    simpa [Poster.spelling, (isChainField_iff.mp hchain).1] using hvalue
  · intro f hf hchain
    obtain ⟨e, he, hkey, hvalue⟩ := h.back f hf
    exact ⟨e, he, (isChainField_eq hkey hvalue).trans hchain⟩

/-- The flat parameters of one are those of the other, respelled. -/
theorem respelled_flat :
    Respelled Step.spelling (xs.filter isFlatField) (ys.filter isFlatField) := by
  -- a flat parameter is named by its parameter alone
  have halone : ∀ {fields : List (String × Json)}, Alone Poster.fieldName? fields →
      Alone Parameter.canonicalName? (fields.filter isFlatField) := by
    intro fields halone e he f hf k hek hfk
    obtain ⟨he, hflat⟩ := List.mem_filter.mp he
    obtain ⟨hf, hflat'⟩ := List.mem_filter.mp hf
    exact halone e he f hf k ((fieldName?_of_isFlatField hflat).trans hek)
      ((fieldName?_of_isFlatField hflat').trans hfk)
  constructor
  case alone => exact halone h.alone
  case alone' => exact halone h.alone'
  case forth =>
    intro e he
    obtain ⟨he, hflat⟩ := List.mem_filter.mp he
    obtain ⟨f, hf, hkey, hvalue⟩ := h.forth e he
    have hflat' := (isFlatField_eq hkey hvalue).symm.trans hflat
    exact ⟨f, List.mem_filter.mpr ⟨hf, hflat'⟩, hkey, value_eq_of_isFlatField hflat hvalue⟩
  case back =>
    intro f hf
    obtain ⟨hf, hflat'⟩ := List.mem_filter.mp hf
    obtain ⟨e, he, hkey, hvalue⟩ := h.back f hf
    have hflat := (isFlatField_eq hkey hvalue).trans hflat'
    exact ⟨e, List.mem_filter.mpr ⟨he, hflat⟩, hkey, value_eq_of_isFlatField hflat hvalue⟩

theorem readable_iff : (∀ e ∈ xs, Readable e) ↔ ∀ f ∈ ys, Readable f := by
  constructor
  · intro hall f hf
    obtain ⟨e, he, hkey, hvalue⟩ := h.back f hf
    exact (readable_of_readable hkey hvalue).mp (hall e he)
  · intro hall e he
    obtain ⟨f, hf, hkey, hvalue⟩ := h.forth e he
    exact (readable_of_readable hkey hvalue).mpr (hall f hf)

/-- Respelled fields are gathered to one asset. -/
theorem eq_of_gathered (hxs : InKeyOrder xs) (hys : InKeyOrder ys) {q q' : PosterAsset}
    (hq : Gathered {} xs q) (hq' : Gathered {} ys q') : q = q' := by
  have hcloud : q.cloudName = q'.cloudName := by
    rw [hq.cloudName, hq'.cloudName, lastValue_spells_eq h (by decide)]
  have hid : q.publicId = q'.publicId := by
    rw [hq.publicId, hq'.publicId, lastValue_spells_eq h (by decide)]
  have htype : q.resourceType = q'.resourceType := by
    rw [hq.resourceType, hq'.resourceType, lastValue_spells_eq h (by decide)]
  have hformat : q.format = q'.format := by
    rw [hq.format, hq'.format, lastValue_spells_eq h (by decide)]
  have hsecure : q.secure = q'.secure := by
    rw [hq.secure, hq'.secure, lastValue_spells_eq h (by decide)]
  have hparams : q.params = q'.params := by
    rw [hq.params, hq'.params]
    exact Step.insertAll_congr (respelled_flat h) (hxs.filter _) (hys.filter _)
  have hchain : q.chain = q'.chain := by
    rw [hq.chain, hq'.chain,
      map_eq_of_rel (rel_lastValue_isChainField h) fun _ _ halike => halike.explicit_eq]
  cases q
  cases q'
  simp_all

end Respelled

end PosterAsset

theorem Poster.ofProperty_obj_eq_ok {fields : List (String × Json)} {r : Option Poster} :
    ofProperty (.obj fields) = .ok r ↔
      ∃ p, PosterAsset.addFields {} (PropertyMap.ofList fields).entries = .ok p ∧
        r = some (if Text.allBlank p.publicId then .frame p.secure else .asset p) := by
  simp only [ofProperty, ofFields, bind_eq_ok]
  constructor
  · rintro ⟨poster, ⟨p, hp, hposter⟩, hr⟩
    obtain rfl := Except.ok.inj hposter
    exact ⟨p, hp, (Except.ok.inj hr).symm⟩
  · rintro ⟨p, hp, rfl⟩
    exact ⟨_, ⟨p, hp, rfl⟩, rfl⟩

/-- A poster is read when each of its fields can be, in whatever order they are. -/
theorem Poster.isOk_ofProperty_obj_iff {fields : List (String × Json)} :
    (∃ r, ofProperty (.obj fields) = .ok r) ↔
      ∀ e ∈ (PropertyMap.ofList fields).entries, PosterAsset.Readable e := by
  rw [← PosterAsset.isOk_addFields_iff (p := {})]
  simp only [ofProperty_obj_eq_ok]
  constructor
  · rintro ⟨r, p, hp, -⟩
    exact ⟨p, hp⟩
  · rintro ⟨p, hp⟩
    exact ⟨_, p, hp, rfl⟩

/-- **A poster is read alike in every spelling.** -/
theorem Poster.Alike.toOption_ofProperty {v w : Json} (h : Poster.Alike v w) :
    (ofProperty v).toOption = (ofProperty w).toOption := by
  cases h with
  | same v => rfl
  | @fields xs ys h =>
    apply toOption_eq
    · rw [isOk_ofProperty_obj_iff, isOk_ofProperty_obj_iff, PosterAsset.readable_iff h]
    · intro r r' hr hr'
      obtain ⟨p, hp, rfl⟩ := ofProperty_obj_eq_ok.mp hr
      obtain ⟨p', hp', rfl⟩ := ofProperty_obj_eq_ok.mp hr'
      rw [PosterAsset.eq_of_gathered h (PropertyMap.ofList xs).sorted
        (PropertyMap.ofList ys).sorted (PosterAsset.gathered_of_addFields hp)
        (PosterAsset.gathered_of_addFields hp')]

end VideoDelivery
