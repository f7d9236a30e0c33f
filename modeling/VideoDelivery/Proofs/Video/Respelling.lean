import VideoDelivery.Document.Basic
import VideoDelivery.Proofs.Video.RespelledValues

/-!
# Spelling does not matter

A document can be respelled in many places at once: properties of the element and of each layer of
context, keys of steps wherever they stand, keys of a poster, tokens of formats
(`Document.Respelled`). No object has two keys that name one thing. This module shows that both
documents render to one result: every map is read in another order, but each name finds the value
it found before.

* `Config.toOption_ofProperties` — a configuration is read alike from alike values under each name.
* `Child.Respelled.eq` — descriptors with respelled steps are the same children.
* `Document.render_respelled` — **both documents fail, or both have one rendering**.
-/

namespace VideoDelivery

/-! ## Respelled documents -/

/-- The values say the same for the configuration property of this name: they are one value, or
they differ in the spelling of names within. -/
def Config.Alike (name : String) (v w : Json) : Prop :=
  match name with
  | "source_types" => Format.Alike v w
  | "source_transformation" => Overrides.Alike v w
  | "transformation" => Chain.Alike v w
  | "poster" => Poster.Alike v w
  | _ => v = w

/-- The properties are respelled, and no two of them name one thing. -/
def PropertyMap.Respelled (a b : PropertyMap) : Prop :=
  VideoDelivery.Respelled (propertySpelling Config.Alike) a.entries b.entries

mutual

/-- The keys of the steps of descriptors are respelled. -/
inductive Child.Respelled : Child → Child → Prop where
  | text (text : String) : Respelled (.text text) (.text text)
  | descriptor {xs ys : List (String × Json)} {cs ds : List Child} (h : Step.Respelled xs ys)
    (hchildren : AllRespelled cs ds) :
    Respelled (.descriptor (Step.ofFields xs) cs) (.descriptor (Step.ofFields ys) ds)

inductive Child.AllRespelled : List Child → List Child → Prop where
  | nil : AllRespelled [] []
  | cons {c d : Child} {cs ds : List Child} (h : Respelled c d) (hrest : AllRespelled cs ds) :
    AllRespelled (c :: cs) (d :: ds)

end

/-- A document is respelled, each part by itself. -/
structure Document.Respelled (d d' : Document) : Prop where
  layers : List.Forall₂ PropertyMap.Respelled d.layers d'.layers
  children : Child.AllRespelled d.props.children d'.props.children
  attributes : d.props.attributes.Respelled d'.props.attributes

/-! ## Children -/

mutual

/-- Descriptors with respelled steps are the same children. -/
theorem Child.Respelled.eq {c d : Child} : Child.Respelled c d → c = d
  | .text _ => rfl
  | .descriptor h hchildren => by rw [Step.ofFields_congr h, hchildren.eq]

theorem Child.AllRespelled.eq {cs ds : List Child} : Child.AllRespelled cs ds → cs = ds
  | .nil => rfl
  | .cons h hrest => by rw [h.eq, hrest.eq]

end

/-! ## Configuration -/

namespace Config

theorem Alike.isFlat_eq {k : String} {v w : Json} (h : Alike k v w) : isFlat k v = isFlat k w := by
  by_cases hk : k = "transformation"
  · subst hk
    have hchain : Chain.isChain v = Chain.isChain w := Chain.Alike.isChain_eq h
    rw [isFlat, isFlat, hchain]
  · rw [isFlat, isFlat, decide_eq_false hk, Bool.false_and, Bool.false_and]

/-- A flat parameter has nothing in it that could be respelled. -/
theorem Alike.eq_of_isFlat {k : String} {v w : Json} (h : Alike k v w) (hflat : isFlat k v = true) :
    v = w := by
  obtain ⟨hparam, hchain⟩ := isFlat_iff.mp hflat
  have hcontrol : ∀ name ∈ controlNames, ¬ Parameter.isParameter name = true := by
    intro name hname
    rw [Parameter.isParameter, canonicalName?_controls name hname]
    exact Bool.false_ne_true
  unfold Alike at h
  split at h
  · exact absurd hparam (hcontrol _ (by decide))
  · exact absurd hparam (hcontrol _ (by decide))
  · exact h.eq_of_not_isChain (by simpa using hchain)
  · exact absurd hparam (hcontrol _ (by decide))
  · exact h

section Readings

variable {m m' : PropertyMap} (h : ∀ k, Option.Rel (Alike k) (m.get? k) (m'.get? k))
include h

/-- The flat parameters are the same. -/
theorem flatParams_congr : flatParams m = flatParams m' := by
  have hentries : m.entries.filter (fun e => isFlat e.1 e.2) =
      m'.entries.filter fun e => isFlat e.1 e.2 := by
    refine PropertyMap.eq_of_mem_iff (m.sorted.filter _) (m'.sorted.filter _) fun e => ?_
    obtain ⟨k, v⟩ := e
    rw [List.mem_filter, List.mem_filter, PropertyMap.mem_entries_iff,
      PropertyMap.mem_entries_iff]
    rcases none_or_some_of_rel (h k) with ⟨hm, hm'⟩ | ⟨w, w', hm, hm', halike⟩
    · rw [hm, hm']
    · -- a name with a flat value has the same value in both
      rw [hm, hm']
      constructor
      · rintro ⟨hv, hflat⟩
        obtain rfl := Option.some.inj hv
        exact ⟨congrArg some (halike.eq_of_isFlat hflat).symm, hflat⟩
      · rintro ⟨hv, hflat⟩
        obtain rfl := Option.some.inj hv
        have hflat' := halike.isFlat_eq.trans hflat
        exact ⟨congrArg some (halike.eq_of_isFlat hflat'), hflat⟩
  rw [flatParams, hentries]
  rfl

theorem toOption_property {α : Type} (name : String) (absent : α) {read : Json → Except Error α}
    (hread : ∀ v w, Alike name v w → (read v).toOption = (read w).toOption) :
    (property m name absent read).toOption = (property m' name absent read).toOption := by
  unfold property
  rcases none_or_some_of_rel (h name) with ⟨hm, hm'⟩ | ⟨v, w, hm, hm', halike⟩
  · rw [hm, hm']
  · rw [hm, hm']
    exact hread v w halike

/-- **A configuration is read alike** from values that say the same under each name. -/
theorem toOption_ofProperties (descriptors : List Step) :
    (ofProperties m descriptors).toOption = (ofProperties m' descriptors).toOption := by
  -- five values are the same, and in four there may be names in another spelling
  have hsame : ∀ {α : Type} (name : String) (absent : α) (read : Json → Except Error α),
      (∀ v w, Alike name v w → v = w) →
        (property m name absent read).toOption = (property m' name absent read).toOption :=
    fun name absent read heq =>
      toOption_property h name absent fun v w halike => by rw [heq v w halike]
  have hposter := toOption_property h "poster" none fun _ _ halike =>
    Poster.Alike.toOption_ofProperty halike
  have hoverrides := toOption_property h "source_transformation" .empty fun _ _ halike =>
    Overrides.Alike.toOption_ofProperty halike
  have hformats := toOption_property h "source_types" [] fun _ _ halike =>
    congrArg Except.toOption (Format.Alike.listOfJson_eq halike)
  have hchain := toOption_property h "transformation" [] fun _ _ halike =>
    congrArg Except.toOption (Chain.Alike.chainOf_eq halike)
  unfold ofProperties
  simp only [toOption_bind]
  rw [hsame "cloud_name" _ _ fun _ _ heq => heq, hsame "format" _ _ fun _ _ heq => heq, hposter,
    hsame "public_id" _ _ fun _ _ heq => heq, hsame "resource_type" _ _ fun _ _ heq => heq,
    hsame "secure" _ _ fun _ _ heq => heq, hoverrides, hformats, hchain, flatParams_congr h]

end Readings

end Config

/-! ## Documents -/

/-- The merged configurations say the same under each name. -/
theorem Document.Respelled.rel_mergedConfig {d d' : Document} (h : d.Respelled d') (k : String) :
    Option.Rel (Config.Alike k) ((d.props.mergedConfig d.context).get? k)
      ((d'.props.mergedConfig d'.context).get? k) := by
  rw [Props.get?_mergedConfig, Props.get?_mergedConfig]
  apply rel_or (Classified.rel_config h.attributes k)
  exact Context.rel_ofLayers (h.layers.imp fun _ _ hlayer => Classified.rel_config hlayer k)

theorem Document.Respelled.toOption_resolve {d d' : Document} (h : d.Respelled d') :
    (d.props.resolve d.context).toOption = (d'.props.resolve d'.context).toOption := by
  have hmerged := h.rel_mergedConfig
  have hfallback : (d.props.mergedConfig d.context).get? "fallback" =
      (d'.props.mergedConfig d'.context).get? "fallback" :=
    eq_of_rel_eq (hmerged "fallback")
  -- the fallback is read apart, and every reader sees what is left
  have hrest : ∀ k, Option.Rel (Config.Alike k)
      (((d.props.mergedConfig d.context).erase "fallback").get? k)
      (((d'.props.mergedConfig d'.context).erase "fallback").get? k) := by
    intro k
    rw [PropertyMap.get?_erase, PropertyMap.get?_erase]
    split
    · exact .none
    · exact hmerged k
  unfold Props.resolve
  simp only [toOption_bind]
  rw [Config.toOption_ofProperties hrest, h.children.eq, hfallback,
    Classified.passthrough_congr h.attributes]

/-- **Spelling never matters.** A document and a respelled one both fail to render, or both render
to the same element and the same snapshot, and so with the same fingerprint. -/
theorem Document.render_respelled {d d' : Document} (h : d.Respelled d') :
    (∃ e e', d.render = .error e ∧ d'.render = .error e') ∨
      ∃ x, d.render = .ok x ∧ d'.render = .ok x := by
  -- what is compiled after the reading is the same for both
  have hrender : d.render.toOption = d'.render.toOption := by
    unfold Document.render Props.render
    rw [toOption_bind, toOption_bind, h.toOption_resolve]
  cases hd : d.render with
  | ok x =>
    cases hd' : d'.render with
    | ok x' =>
      rw [hd, hd'] at hrender
      obtain rfl := Option.some.inj hrender
      exact .inr ⟨x, rfl, rfl⟩
    | error e' =>
      rw [hd, hd'] at hrender
      cases hrender
  | error e =>
    cases hd' : d'.render with
    | ok x' =>
      rw [hd, hd'] at hrender
      cases hrender
    | error e' => exact .inl ⟨e, e', rfl, rfl⟩

/-- A video under one layer of context, with a descriptor. -/
def Document.camelCase : Document where
  layers := [⟨[("cloudName", .str "demo")], by decide +kernel⟩]
  props := {
    children :=
      [.descriptor (Step.ofFields [("aspectRatio", .str "1:1"), ("width", .ofNat 100)]) []]
    attributes := ⟨[("publicId", .str "dog"), ("sourceTypes", .arr [.str "webm", .str "mp4"])],
      by decide +kernel⟩ }

/-- The same video in other spellings, which stand in another order. -/
def Document.snakeCase : Document where
  layers := [⟨[("CLOUD_NAME", .str "demo")], by decide +kernel⟩]
  props := {
    children :=
      [.descriptor (Step.ofFields [("WIDTH", .ofNat 100), ("aspect_ratio", .str "1:1")]) []]
    attributes := ⟨[("Source_Types", .arr [.str " WebM ", .str "MP4"]), ("public_id", .str "dog")],
      by decide +kernel⟩ }

/-- The two documents are one video in two spellings, and they have one rendering. -/
theorem Document.render_snakeCase :
    Document.Respelled .camelCase .snakeCase ∧
      ((∃ e e', camelCase.render = .error e ∧ snakeCase.render = .error e') ∨
        ∃ x, camelCase.render = .ok x ∧ snakeCase.render = .ok x) := by
  have hcloud : Name.fold "cloudName" = Name.fold "cloud_name" := by decide +kernel
  have hcloud' : Name.fold "CLOUD_NAME" = Name.fold "cloud_name" := by decide +kernel
  have hid : Name.fold "publicId" = Name.fold "public_id" := by decide +kernel
  have htypes : Name.fold "sourceTypes" = Name.fold "source_types" := by decide +kernel
  have htypes' : Name.fold "Source_Types" = Name.fold "source_types" := by decide +kernel
  have hratio : Name.fold "aspectRatio" = Name.fold "aspect_ratio" := by decide +kernel
  have hwidth : Name.fold "width" = Name.fold "WIDTH" := by decide +kernel
  -- what each spelling names, and what may be written for what
  have hcloudKey : RespelledName "cloudName" "CLOUD_NAME" :=
    respelledName_of_fold (by decide) hcloud hcloud'
  have hidKey : RespelledName "publicId" "public_id" := respelledName_of_fold (by decide) hid rfl
  have htypesKey : RespelledName "sourceTypes" "Source_Types" :=
    respelledName_of_fold (by decide) htypes htypes'
  have hformats : Config.Alike "source_types" (.arr [.str "webm", .str "mp4"])
      (.arr [.str " WebM ", .str "MP4"]) :=
    .list (.cons (.token (by decide +kernel)) (.cons (.token (by decide +kernel)) .nil))
  have hdemo : Config.Alike "cloud_name" (.str "demo") (.str "demo") := rfl
  have hdog : Config.Alike "public_id" (.str "dog") (.str "dog") := rfl
  have hdemo := respelledValue_of_fold (by decide) hcloud hdemo
  have hdog := respelledValue_of_fold (by decide) hid hdog
  have hformats := respelledValue_of_fold (by decide) htypes hformats
  have hlayer : PropertyMap.Respelled ⟨[("cloudName", .str "demo")], by decide +kernel⟩
      ⟨[("CLOUD_NAME", .str "demo")], by decide +kernel⟩ := by
    refine .of_forall₂ [("CLOUD_NAME", .str "demo")] (.cons ⟨hcloudKey, hdemo⟩ .nil)
      (.refl _) (.of_nodup ?_) (.of_nodup ?_)
    · simp [propertySpelling, propertyName?_of_fold (by decide) hcloud]
    · simp [propertySpelling, propertyName?_of_fold (by decide) hcloud']
  -- in the second object the fields stand the other way round
  have hstep : Step.Respelled [("aspectRatio", .str "1:1"), ("width", .ofNat 100)]
      [("WIDTH", .ofNat 100), ("aspect_ratio", .str "1:1")] := by
    rw [Step.Respelled, PropertyMap.entries_ofList (by decide +kernel),
      PropertyMap.entries_ofList (by decide +kernel)]
    exact .of_forall₂ [("aspect_ratio", .str "1:1"), ("WIDTH", .ofNat 100)]
      (.cons ⟨hratio, rfl⟩ (.cons ⟨hwidth, rfl⟩ .nil)) (.swap _ _ _)
      (.of_nodup (by decide +kernel)) (.of_nodup (by decide +kernel))
  have hattributes : camelCase.props.attributes.Respelled snakeCase.props.attributes := by
    refine .of_forall₂ [("public_id", .str "dog"),
        ("Source_Types", .arr [.str " WebM ", .str "MP4"])]
      (.cons ⟨hidKey, hdog⟩ (.cons ⟨htypesKey, hformats⟩ .nil)) (.swap _ _ _)
      (.of_nodup ?_) (.of_nodup ?_)
    · simp [camelCase, propertySpelling, propertyName?_of_fold (by decide) hid,
        propertyName?_of_fold (by decide) htypes]
    · simp [snakeCase, propertySpelling, propertyName?_of_fold (by decide) htypes',
        propertyName?_of_fold (by decide) (rfl : Name.fold "public_id" = _)]
  have hrespelled : Document.Respelled .camelCase .snakeCase :=
    ⟨.cons hlayer .nil, .cons (.descriptor hstep .nil) .nil, hattributes⟩
  exact ⟨hrespelled, render_respelled hrespelled⟩

end VideoDelivery
