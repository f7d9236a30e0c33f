import VideoDelivery.Proofs.Video.Addresses
import VideoDelivery.Proofs.Video.Inheritance

/-!
# Posters and videos are compiled apart

The URL of the poster and those that the element plays come out of one configuration, and several of
its properties mean something for both. Nothing leaks from the one to the other: of the video the
poster sees the account, the identifier and the wish for a secure scheme, and the video sees nothing
of the poster. Both are statements about two renderings at a time, which need not have anything else
in common.

* `Config.ofProperties_of_sameApartFrom` — another poster property makes another poster, and leaves
  the rest of the configuration as it is.
* `Props.content_of_sameApartFrom` — so what an element plays does not depend on the poster.
* `Props.compiledApart` — **the poster and the video of a rendering are compiled apart**.
-/

namespace VideoDelivery

/-! ## Maps that differ in one name -/

/-- The maps have the same values, apart from what they give the spellings of one name. -/
def PropertyMap.SameApartFrom (a b : PropertyMap) (name : String) : Prop :=
  ∀ k, Name.fold k ≠ Name.fold name → a.get? k = b.get? k

namespace PropertyMap.SameApartFrom

variable {a b : PropertyMap} {name : String}

theorem erase (h : a.SameApartFrom b name) (erased : String) :
    (a.erase erased).SameApartFrom (b.erase erased) name := by
  intro k hk
  rw [get?_erase, get?_erase, h k hk]

/-- The same goes for the configuration that they are classified to. -/
theorem config (h : a.SameApartFrom b name) :
    (Classified.ofMap a).config.SameApartFrom (Classified.ofMap b).config name := by
  intro k hk
  rw [Classified.get?_config, Classified.get?_config]
  congr 1
  exact spellings_congr fun spelled hspells => h spelled (fold_of_configName? hspells ▸ hk)

/-- If the name is one of configuration, the same is passed through. -/
theorem passthrough (h : a.SameApartFrom b name) (hname : name ∈ configNames) :
    (Classified.ofMap a).passthrough = (Classified.ofMap b).passthrough := by
  apply ext_get?
  intro k
  rw [Classified.get?_passthrough, Classified.get?_passthrough]
  congr 1
  refine spellings_congr fun spelled hspells => h spelled fun hfold => ?_
  -- a spelling of the name is not passed through
  rw [attributeName?, (configName?_eq_some_iff hname).mpr hfold] at hspells
  cases hspells

theorem mergedConfig {p q : Props} (h : p.attributes.SameApartFrom q.attributes name)
    (ctx : Context) : (p.mergedConfig ctx).SameApartFrom (q.mergedConfig ctx) name := by
  intro k hk
  rw [Props.get?_mergedConfig, Props.get?_mergedConfig, h.config k hk]

end PropertyMap.SameApartFrom

/-! ## What the video sees -/

namespace Config

section

variable {m m' : PropertyMap} (h : m.SameApartFrom m' "poster")
include h

theorem property_of_sameApartFrom {α : Type} {name : String}
    (hname : Name.fold name ≠ Name.fold "poster") (absent : α) (read : Json → Except Error α) :
    property m' name absent read = property m name absent read := by
  rw [property, property, h name hname]

theorem flatParams_of_sameApartFrom : flatParams m' = flatParams m := by
  have hentries : m'.entries.filter (fun e => isFlat e.1 e.2) =
      m.entries.filter fun e => isFlat e.1 e.2 := by
    refine PropertyMap.eq_of_mem_iff (m'.sorted.filter _) (m.sorted.filter _) fun e => ?_
    obtain ⟨k, v⟩ := e
    rw [List.mem_filter, List.mem_filter, PropertyMap.mem_entries_iff, PropertyMap.mem_entries_iff]
    refine and_congr_left fun hflat => ?_
    -- no spelling of the poster is a transformation parameter
    have hk : Name.fold k ≠ Name.fold "poster" := by
      intro hfold
      have hparam := (isFlat_iff.mp hflat).1
      rw [Parameter.isParameter, Parameter.canonicalName?_congr hfold,
        canonicalName?_controls "poster" (by decide)] at hparam
      cases hparam
    rw [h k hk]
  rw [flatParams, flatParams, hentries]

/-- **Another poster property makes another poster**, and leaves the rest of the configuration as it
is. -/
theorem ofProperties_of_sameApartFrom {x x' : Option Poster}
    (hx : property m "poster" none Poster.ofProperty = .ok x)
    (hx' : property m' "poster" none Poster.ofProperty = .ok x') (descriptors : List Step) :
    ofProperties m' descriptors =
      (fun c => { c with poster := x' }) <$> ofProperties m descriptors := by
  unfold ofProperties
  rw [hx, hx', flatParams_of_sameApartFrom h]
  -- the eight other properties are read from what is the same
  iterate 8 rw [property_of_sameApartFrom h (by decide +kernel)]
  simp only [map_bind, map_pure]
  rfl

end

end Config

namespace Props

variable {p q : Props} {ctx ctx' : Context} {x y : Rendered}

/-- What a rendering takes over as it is written. -/
theorem passed_of_render (h : p.render ctx = .ok x) :
    x.element.attributes = (Classified.ofMap p.attributes).passthrough ∧
      x.element.fallback = fallbackText? ((p.mergedConfig ctx).get? "fallback") p.children := by
  obtain ⟨r, hresolve, hcompiled⟩ := render_eq_ok.mp h
  obtain ⟨c, -, hr⟩ := bind_eq_ok.mp hresolve
  obtain rfl := Except.ok.inj hr
  obtain ⟨sources, -, poster, -, content, -, rfl⟩ := Rendered.ofResolved_eq_ok.mp hcompiled
  exact ⟨rfl, rfl⟩

/-- The poster of a rendering is read from the merged property. -/
theorem property_poster_of_render (h : p.render ctx = .ok x) :
    Config.property (p.mergedConfig ctx) "poster" none Poster.ofProperty =
      .ok x.snapshot.config.poster := by
  rw [← (Config.property_of_ok (ofProperties_of_render h)).1, Config.property, Config.property,
    PropertyMap.get?_erase, if_neg (by decide)]

/-- Renderings from configurations that differ in their posters only have the same content. -/
theorem content_of_sameApartFrom (hx : p.render ctx = .ok x) (hy : q.render ctx' = .ok y)
    (hsame : (p.mergedConfig ctx).SameApartFrom (q.mergedConfig ctx') "poster")
    (hsteps : Child.allSteps p.children = Child.allSteps q.children) :
    x.element.content = y.element.content := by
  have hread := ofProperties_of_render hx
  have hread' := ofProperties_of_render hy
  have hconfig := Config.ofProperties_of_sameApartFrom (hsame.erase "fallback")
    (Config.property_of_ok hread).1 (Config.property_of_ok hread').1
    (Child.allSteps p.children)
  rw [hread, hsteps, hread'] at hconfig
  -- the sources are compiled from what is left, which is the same
  obtain ⟨-, hcontent⟩ := compiled_of_render hx
  obtain ⟨-, hcontent'⟩ := compiled_of_render hy
  rw [Except.ok.inj hconfig] at hcontent'
  exact Except.ok.inj (hcontent.symm.trans hcontent')

end Props

/-! ## What the poster sees -/

/-- The URL of the first frame of the configured video, with a scheme of its own or that of the
video. -/
def Config.frameAddress (c : Config) (secure : Option Bool) : String :=
  deliveryUrl (.ofSecure (secure.getD c.secure)) c.asset.cloudName .video []
    (c.asset.publicId ++ ".jpg")

theorem Poster.eq_frameAddress {c : Config} {secure : Option Bool} {u : String}
    (h : frameUrl c.inherited secure = .ok u) : u = c.frameAddress secure := by
  unfold frameUrl at h
  dsimp only at h
  split at h
  · cases h
  next result hresult =>
    obtain ⟨-, rfl⟩ := Asset.url_eq_ok.mp h
    rw [Asset.address_eq, Asset.fileName_eq, Config.frameAddress]
    rfl

/-- What it means that the poster and the video of a rendering are compiled apart. -/
structure Props.CompiledApart (p : Props) (ctx : Context) (x : Rendered) : Prop where
  /-- Any other rendering with the same account, identifier and wish for a secure scheme has the
  same URL for the same poster, whatever else is configured in the one or the other. -/
  poster : ∀ q ctx' y, Props.render q ctx' = .ok y →
    y.snapshot.config.asset.cloudName = x.snapshot.config.asset.cloudName →
    y.snapshot.config.asset.publicId = x.snapshot.config.asset.publicId →
    y.snapshot.config.secure = x.snapshot.config.secure →
    y.snapshot.config.poster = x.snapshot.config.poster →
    y.element.poster = x.element.poster
  /-- Any other rendering with the same descriptors plays the same if the merged configurations
  differ in nothing but the poster. -/
  content : ∀ q ctx' y, Props.render q ctx' = .ok y →
    (q.mergedConfig ctx').SameApartFrom (p.mergedConfig ctx) "poster" →
    Child.allSteps q.children = Child.allSteps p.children →
    y.element.content = x.element.content
  /-- In its place, another poster property makes an element with another poster at most. -/
  element : ∀ q y, Props.render q ctx = .ok y → q.children = p.children →
    q.attributes.SameApartFrom p.attributes "poster" →
    y.element = { x.element with poster := y.element.poster }
  /-- A text is the URL itself. -/
  verbatim : ∀ text, (p.mergedConfig ctx).get? "poster" = some (.str text) →
    x.element.poster = text
  /-- Without a poster, and with null for one, there is the first frame of the video. -/
  absent : (p.mergedConfig ctx).get? "poster" = none ∨
    (p.mergedConfig ctx).get? "poster" = some .null →
    x.element.poster = x.snapshot.config.frameAddress none
  /-- So there is where the poster names no asset, with the scheme that it asks for, if any. -/
  frame : ∀ secure, x.snapshot.config.poster = some (.frame secure) →
    x.element.poster = x.snapshot.config.frameAddress secure

/-- **The poster and the video of a rendering are compiled apart.** The poster depends on the
account, the identifier, the wish for a secure scheme and the poster property alone, whatever flat
parameters, chains, descriptors, formats, overrides and types there are; what the element plays does
not depend on the poster property. A text is the URL of the poster as it is, and a poster that is
absent or says nothing is the first frame of the video, which no transformation is applied to. -/
theorem Props.compiledApart {p : Props} {ctx : Context} {x : Rendered}
    (h : p.render ctx = .ok x) : CompiledApart p ctx x := by
  obtain ⟨hposter, -⟩ := compiled_of_render h
  have hproperty := property_poster_of_render h
  constructor
  case poster =>
    intro q ctx' y hy hcloud hid hsecure hsame
    obtain ⟨hposter', -⟩ := compiled_of_render hy
    rw [hsame, Config.inherited, hcloud, hid, hsecure] at hposter'
    exact Except.ok.inj (hposter'.symm.trans hposter)
  case content =>
    intro q ctx' y hy hsame hsteps
    exact content_of_sameApartFrom hy h hsame hsteps
  case element =>
    intro q y hy hchildren hsame
    have hmerged := hsame.mergedConfig ctx
    have hcontent := content_of_sameApartFrom hy h hmerged (by rw [hchildren])
    obtain ⟨hattributes, hfallback⟩ := passed_of_render h
    obtain ⟨hattributes', hfallback'⟩ := passed_of_render hy
    rw [hsame.passthrough (List.mem_append_left _ (by decide)), ← hattributes] at hattributes'
    rw [hmerged "fallback" (by decide +kernel), hchildren, ← hfallback] at hfallback'
    dsimp only
    rw [← hcontent, ← hattributes', ← hfallback']
  case verbatim =>
    intro text htext
    rw [Config.property, htext] at hproperty
    rw [← Except.ok.inj hproperty] at hposter
    exact (Except.ok.inj hposter).symm
  case absent =>
    intro habsent
    have hnone : x.snapshot.config.poster = none := by
      rcases habsent with habsent | habsent <;> rw [Config.property, habsent] at hproperty <;>
        exact (Except.ok.inj hproperty).symm
    rw [hnone] at hposter
    exact Poster.eq_frameAddress hposter
  case frame =>
    intro secure hframe
    rw [hframe] at hposter
    exact Poster.eq_frameAddress hposter

/-- A video in two formats with a step of its own, which is shown with some poster. -/
def Props.shownWith (poster : Json) : Props where
  attributes := (PropertyMap.ofList [("cloudName", .str "demo"), ("publicId", .str "dog"),
    ("width", .ofNat 100), ("sourceTypes", .arr [.str "webm", .str "mp4"])]).insert "poster" poster

/-- The poster is as it is written in the one rendering and the first frame in the other, and apart
from that the elements are the same. -/
theorem Props.compiledApart_shownWith :
    ∃ x y, (shownWith (.str "cat.png")).render .empty = .ok x ∧
      (shownWith .null).render .empty = .ok y ∧
      x.element.poster = "cat.png" ∧
      y.element.poster = "http://res.cloudinary.com/demo/video/upload/dog.jpg" ∧
      y.element = { x.element with poster := y.element.poster } := by
  have hrun : (do
      let x ← (shownWith (.str "cat.png")).render .empty
      let y ← (shownWith .null).render .empty
      return (y.snapshot.config.asset, y.snapshot.config.secure)) =
        (.ok (⟨"demo", "dog", .video, none⟩, false) : Except Error _) := by
    decide +kernel
  obtain ⟨x, hx, hrun⟩ := bind_eq_ok.mp hrun
  obtain ⟨y, hy, hrun⟩ := bind_eq_ok.mp hrun
  obtain ⟨hasset, hsecure⟩ := Prod.mk.inj (Except.ok.inj hrun)
  have hposter : ∀ v, ((shownWith v).mergedConfig .empty).get? "poster" = some v := fun v =>
    get?_mergedConfig_of_own (by decide +kernel) (by simp [shownWith]) .empty
  have hsame : (shownWith .null).attributes.SameApartFrom (shownWith (.str "cat.png")).attributes
      "poster" := by
    intro k hk
    have hne : k ≠ "poster" := fun heq => hk (congrArg Name.fold heq)
    rw [shownWith, shownWith, PropertyMap.get?_insert, PropertyMap.get?_insert, if_neg hne,
      if_neg hne]
  have hframe := (compiledApart hy).absent (.inr (hposter .null))
  rw [Config.frameAddress, hasset, hsecure] at hframe
  exact ⟨x, y, hx, hy, (compiledApart hx).verbatim _ (hposter _), hframe.trans (by decide +kernel),
    (compiledApart hx).element _ y hy rfl hsame⟩

end VideoDelivery
