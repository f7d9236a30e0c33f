import VideoDelivery.Document.Basic
import VideoDelivery.Proofs.Property.Spellings
import VideoDelivery.Proofs.Video.Agreement
import Mathlib.Logic.Relation

/-!
# Presentation does not touch identity

Some of what a document says only presents the video: attributes of the media element, names that
mean nothing here, the fallback text, and texts among the children. This module shows that none of
it reaches the configuration that URLs, snapshot and fingerprint come from.

An edit is a sequence of single changes (`PresentationEdit`): one such attribute is set or removed,
on the element or on a layer of context, or one text is put in or taken out anywhere among the
children.

* `PresentationEdit.identity_eq` — one change leaves the configuration and the steps of descriptors
  as they were.
* `Props.sameIdentity_render` — renderings from one configuration and the same steps fail with one
  error, or have one snapshot and play and show the same.
* `PresentationEdit.sameIdentity_of_edits` — **no sequence of such changes has an effect on
  identity**.
-/

namespace VideoDelivery

/-! ## Changes -/

/-- A property of this name only presents the video: it is unknown, a media attribute in some
spelling, or the fallback text in some spelling. -/
def Presentational (name : String) : Prop :=
  (configName? name = none ∧ mediaAttribute? name = none) ∨
    (∃ canonical ∈ mediaAttributes, Name.fold canonical = Name.fold name) ∨
    Name.fold name = "fallback"

/-- One property that only presents the video is added, changed or removed. -/
inductive AttributeEdit : PropertyMap → PropertyMap → Prop where
  | set {m : PropertyMap} (name : String) (value : Json) (h : Presentational name) :
    AttributeEdit m (m.insert name value)
  | remove {m : PropertyMap} (name : String) (h : Presentational name) :
    AttributeEdit m (m.erase name)

/-- One text is put in among some children or taken out, here or within a descriptor. -/
inductive TextEdit : List Child → List Child → Prop where
  | insert (before after : List Child) (text : String) :
    TextEdit (before ++ after) (before ++ .text text :: after)
  | remove (before after : List Child) (text : String) :
    TextEdit (before ++ .text text :: after) (before ++ after)
  | within (before after : List Child) (step : Step) {children children' : List Child}
    (h : TextEdit children children') :
    TextEdit (before ++ .descriptor step children :: after)
      (before ++ .descriptor step children' :: after)

/-- One change that only presents the video: on the element, on a layer, or among the children. -/
inductive PresentationEdit : Document → Document → Prop where
  | attributes (layers : List PropertyMap) (children : List Child) {a a' : PropertyMap}
    (h : AttributeEdit a a') : PresentationEdit ⟨layers, ⟨children, a⟩⟩ ⟨layers, ⟨children, a'⟩⟩
  | layer (outer inner : List PropertyMap) (props : Props) {a a' : PropertyMap}
    (h : AttributeEdit a a') :
    PresentationEdit ⟨outer ++ a :: inner, props⟩ ⟨outer ++ a' :: inner, props⟩
  | children (layers : List PropertyMap) (attributes : PropertyMap) {cs cs' : List Child}
    (h : TextEdit cs cs') : PresentationEdit ⟨layers, ⟨cs, attributes⟩⟩ ⟨layers, ⟨cs', attributes⟩⟩

/-! ## Names -/

theorem configName?_mediaAttributes : ∀ a ∈ mediaAttributes, configName? a = none := by
  decide +kernel

theorem configName?_fallback : configName? "fallback" = some "fallback" := by
  decide +kernel

theorem fold_fallback : Name.fold "fallback" = "fallback" := by
  decide +kernel

/-- A property that only presents the video has no place in the configuration but `fallback`. -/
theorem Presentational.configName?_ne {name k : String} (h : Presentational name)
    (hk : k ≠ "fallback") : configName? name ≠ some k := by
  rcases h with ⟨hnone, -⟩ | ⟨canonical, hmem, hfold⟩ | hfold
  · rw [hnone]
    exact nofun
  · -- no media attribute is a configuration name too
    rw [← configName?_congr hfold, configName?_mediaAttributes canonical hmem]
    exact nofun
  · have hname : Name.fold name = Name.fold "fallback" := hfold.trans fold_fallback.symm
    rw [configName?_congr hname, configName?_fallback]
    intro heq
    exact hk (Option.some.inj heq).symm

/-! ## One change -/

theorem AttributeEdit.get?_config {a a' : PropertyMap} (h : AttributeEdit a a') {k : String}
    (hk : k ≠ "fallback") :
    (Classified.ofMap a).config.get? k = (Classified.ofMap a').config.get? k := by
  rw [Classified.get?_config, Classified.get?_config]
  congr 1
  -- the changed name is no spelling of `k`, and all others have the value they had
  apply spellings_congr
  intro name hspells
  cases h with
  | set changed value hchanged =>
    have hne : name ≠ changed := by
      rintro rfl
      exact hchanged.configName?_ne hk hspells
    rw [PropertyMap.get?_insert, if_neg hne]
  | remove changed hchanged =>
    have hne : name ≠ changed := by
      rintro rfl
      exact hchanged.configName?_ne hk hspells
    rw [PropertyMap.get?_erase, if_neg hne]

/-- Texts have no steps, wherever they stand. -/
theorem TextEdit.allSteps_eq {cs cs' : List Child} (h : TextEdit cs cs') :
    Child.allSteps cs = Child.allSteps cs' := by
  induction h with
  | insert before after text =>
    rw [Child.allSteps_append, Child.allSteps_append, Child.allSteps, Child.steps, List.nil_append]
  | remove before after text =>
    rw [Child.allSteps_append, Child.allSteps_append, Child.allSteps, Child.steps, List.nil_append]
  | within before after step _ ih =>
    rw [Child.allSteps_append, Child.allSteps_append, Child.allSteps, Child.allSteps, Child.steps,
      Child.steps, ih]

namespace Document

/-- The configuration of the element, from which `fallback` has been taken out. -/
def identityProperties (d : Document) : PropertyMap :=
  (d.props.mergedConfig d.context).erase "fallback"

theorem identityProperties_congr {d d' : Document}
    (hown : ∀ k, k ≠ "fallback" → (Classified.ofMap d.props.attributes).config.get? k =
      (Classified.ofMap d'.props.attributes).config.get? k)
    (hcontext : ∀ k, k ≠ "fallback" → d.context.config.get? k = d'.context.config.get? k) :
    d.identityProperties = d'.identityProperties := by
  apply PropertyMap.ext_get?
  intro k
  unfold identityProperties
  rw [PropertyMap.get?_erase, PropertyMap.get?_erase]
  by_cases hk : k = "fallback"
  · rw [if_pos hk, if_pos hk]
  · -- any other name has its value from the element or from a layer
    rw [if_neg hk, if_neg hk, Props.get?_mergedConfig, Props.get?_mergedConfig, hown k hk,
      hcontext k hk]

end Document

namespace PresentationEdit

/-- **One change leaves the configuration and the steps of descriptors as they were.** -/
theorem identity_eq {d d' : Document} (h : PresentationEdit d d') :
    d.identityProperties = d'.identityProperties ∧
      Child.allSteps d.props.children = Child.allSteps d'.props.children := by
  cases h with
  | attributes layers children hedit =>
    refine ⟨Document.identityProperties_congr ?_ ?_, rfl⟩
    · exact fun k hk => hedit.get?_config hk
    · exact fun _ _ => rfl
  | layer outer inner props hedit =>
    refine ⟨Document.identityProperties_congr (fun _ _ => rfl) ?_, rfl⟩
    intro k hk
    apply eq_of_rel_eq
    apply Context.rel_ofLayers
    -- all layers but one are what they were
    have hsame : ∀ layers : List PropertyMap, List.Forall₂ (fun a b => Option.Rel Eq
        ((Classified.ofMap a).config.get? k) ((Classified.ofMap b).config.get? k)) layers layers :=
      fun layers => List.forall₂_same.mpr fun a _ => rel_refl (fun _ => rfl) _
    refine List.rel_append (hsame outer) (.cons ?_ (hsame inner))
    rw [hedit.get?_config hk]
    exact rel_refl (fun _ => rfl) _
  | children layers attributes hedit =>
    refine ⟨Document.identityProperties_congr ?_ ?_, hedit.allSteps_eq⟩
    · exact fun _ _ => rfl
    · exact fun _ _ => rfl

end PresentationEdit

/-! ## Renderings of one identity -/

theorem Overrides.same_refl (o : Overrides) : (o == o) = true := by
  show Format.all.all (fun f => o.get? f == o.get? f) = true
  rw [List.all_eq_true]
  intro f _
  exact beq_self_eq_true _

theorem Poster.same_refl (p : Poster) : (p == p) = true := by
  cases p with
  | url text => exact beq_self_eq_true text
  | frame secure => exact beq_self_eq_true secure
  | asset p => exact PosterAsset.same_iff.mpr ⟨rfl, rfl, rfl, rfl, rfl, BEq.rfl, BEq.rfl⟩

theorem Config.same_refl (c : Config) : (c == c) = true := by
  have hposter : (c.poster == c.poster) = true := by
    cases c.poster with
    | none => rfl
    | some p => exact p.same_refl
  exact same_iff.mpr ⟨rfl, rfl, rfl, BEq.rfl, BEq.rfl, c.overrides.same_refl, hposter⟩

/-- The element is kept from one rendering of a snapshot to the next. -/
theorem Snapshot.needsReload_self (s : Snapshot) : s.needsReload s = false := by
  have hsame : (s == s) = true := s.config.same_refl
  rw [needsReload, bne, hsame]
  rfl

/-- Two outcomes of rendering are of one identity: both fail with one error; or both succeed, with
one snapshot and one fingerprint, so that the media element is kept, and what they play and the
poster they show are the same. -/
def SameIdentity : Except Error Rendered → Except Error Rendered → Prop
  | .error e, .error e' => e = e'
  | .ok x, .ok y =>
    x.snapshot = y.snapshot ∧ x.snapshot.fingerprint = y.snapshot.fingerprint ∧
      x.element.content = y.element.content ∧ x.element.poster = y.element.poster ∧
      x.snapshot.needsReload y.snapshot = false
  | _, _ => False

/-- What is compiled depends on the configuration alone. -/
theorem Rendered.sameIdentity_ofResolved (c : Config) (passthrough passthrough' : PropertyMap)
    (fallback fallback' : Option String) :
    SameIdentity (ofResolved ⟨c, passthrough, fallback⟩)
      (ofResolved ⟨c, passthrough', fallback'⟩) := by
  unfold ofResolved
  dsimp only
  -- both take the same steps, and one that fails ends both
  cases Source.expand c.asset c.formats c.sharedChain c.overrides (.ofSecure c.secure) with
  | error e => exact rfl
  | ok sources =>
    cases Poster.resolve c.poster c.inherited with
    | error e => exact rfl
    | ok poster =>
      dsimp only [bind, Except.bind]
      cases content c.formats sources with
      | error e => exact rfl
      | ok played => exact ⟨rfl, rfl, rfl, rfl, Snapshot.needsReload_self _⟩

/-- **Renderings from one configuration and the same steps are of one identity.** -/
theorem Props.sameIdentity_render {p q : Props} {ctx ctx' : Context}
    (hconfig : (p.mergedConfig ctx).erase "fallback" = (q.mergedConfig ctx').erase "fallback")
    (hsteps : Child.allSteps p.children = Child.allSteps q.children) :
    SameIdentity (p.render ctx) (q.render ctx') := by
  unfold render resolve
  dsimp only
  rw [hconfig, hsteps]
  -- what was read of both is one configuration, and the rest of them only presents it
  cases Config.ofProperties ((q.mergedConfig ctx').erase "fallback")
    (Child.allSteps q.children) with
  | error e => exact rfl
  | ok c => exact Rendered.sameIdentity_ofResolved c _ _ _ _

namespace PresentationEdit

/-- **Presentation never affects identity.** Whatever is edited in this way, any number of times:
rendering fails with the error it failed with, or it succeeds with the same snapshot and
fingerprint, plays and shows the same, and the media element is kept. -/
theorem sameIdentity_of_edits {d d' : Document} (h : Relation.ReflTransGen PresentationEdit d d') :
    SameIdentity d.render d'.render := by
  have hsame : d.identityProperties = d'.identityProperties ∧
      Child.allSteps d.props.children = Child.allSteps d'.props.children := by
    induction h with
    | refl => exact ⟨rfl, rfl⟩
    | tail _ hedit ih =>
      obtain ⟨hproperties, hsteps⟩ := hedit.identity_eq
      exact ⟨ih.1.trans hproperties, ih.2.trans hsteps⟩
  exact Props.sameIdentity_render hsame.1 hsame.2

end PresentationEdit

/-- A video under one layer of context, with a descriptor. -/
def Document.plain : Document where
  layers := [.ofList [("cloudName", .str "demo")]]
  props := {
    children := [.descriptor (Step.empty.insert "width" (.ofNat 100)) []]
    attributes := .ofList [("publicId", .str "dog")] }

/-- The same video with a media attribute, a name that means nothing, a fallback text for the layer,
and texts at the top and within the descriptor. -/
def Document.adorned : Document where
  layers := [(PropertyMap.ofList [("cloudName", .str "demo")]).insert "FALL_BACK" (.str "later")]
  props := {
    children := [.text "a dog", .descriptor (Step.empty.insert "width" (.ofNat 100)) [.text "wide"]]
    attributes := ((PropertyMap.ofList [("publicId", .str "dog")]).insert "auto_play"
      (.bool true)).insert "data-id" .null }

/-- What the adorned video has more is presentation, and it plays what the plain one plays. -/
theorem PresentationEdit.sameIdentity_adorned :
    Relation.ReflTransGen PresentationEdit .plain .adorned ∧
      SameIdentity Document.plain.render Document.adorned.render ∧
      Document.plain.render.toOption.isSome = true := by
  have hmedia : Presentational "auto_play" := .inr (.inl ⟨"autoPlay", by decide +kernel⟩)
  have hunknown : Presentational "data-id" := .inl (by decide +kernel)
  have hfallback : Presentational "FALL_BACK" := .inr (.inr (by decide +kernel))
  -- one edit for each difference, the texts last
  have hedits : Relation.ReflTransGen PresentationEdit .plain .adorned :=
    .tail (.tail (.tail (.tail (.tail .refl
      (.attributes _ _ (.set "auto_play" (.bool true) hmedia)))
      (.attributes _ _ (.set "data-id" .null hunknown)))
      (.layer [] [] _ (.set "FALL_BACK" (.str "later") hfallback)))
      (.children _ _ (.within [] [] _ (.insert [] [] "wide"))))
      (.children _ _ (.insert [] _ "a dog"))
  exact ⟨hedits, sameIdentity_of_edits hedits, by decide +kernel⟩

end VideoDelivery
