import VideoDelivery.Proofs.Video.Acceptance
import VideoDelivery.Proofs.Video.Rendered

/-!
# What can still fail

Blank texts are looked for in three places: when a configuration is read, when the object of a
poster is read, and when a URL is compiled. It is the same test in all of them, so what the first
two let through the third accepts (`Config.Addressable`). Once properties resolve, the sources are
compiled and so is the first frame; only a poster can name an account that nothing has looked at.

* `Config.addressable_of_ok` — a configuration that is read names an asset, and so does its poster.
* `Source.expand_of_addressable` — its sources are compiled.
* `Poster.resolve_eq_error_iff` — its poster is compiled unless that has a blank account of its own.
* `Props.render_once_resolved` — **what can still fail once properties resolve**, and which errors a
  rendering never ends in.
-/

namespace VideoDelivery

/-! ## Assets that can be addressed -/

theorem Asset.addressFault?_eq_none {a : Asset} (hcloud : Text.allBlank a.cloudName = false)
    (hid : Text.allBlank a.publicId = false) : a.addressFault? = none := by
  simp [addressFault?, hcloud, hid]

theorem Asset.addressFault?_eq_cloudName {a : Asset} (hcloud : Text.allBlank a.cloudName = true) :
    a.addressFault? = some .cloudNameNeededToAddress := by
  simp [addressFault?, hcloud]

/-- The configuration names an account and an asset, and a poster object in it names an asset. -/
structure Config.Addressable (c : Config) : Prop where
  cloudName : Text.allBlank c.asset.cloudName = false
  publicId : Text.allBlank c.asset.publicId = false
  poster : ∀ p, c.poster = some (.asset p) → Text.allBlank p.publicId = false

theorem Config.allBlank_of_nonBlank {cause : Cause} {x : Option String} {s : String}
    (h : nonBlank cause x = .ok s) : Text.allBlank s = false := by
  rw [some_of_nonBlank h] at h
  unfold nonBlank at h
  dsimp only at h
  split at h
  · cases h
  next hblank => exact Bool.eq_false_iff.mpr hblank

/-- An object without an identifier is not read as a poster of its own. -/
theorem Poster.allBlank_of_ofProperty {v : Json} {p : PosterAsset}
    (h : ofProperty v = .ok (some (.asset p))) : Text.allBlank p.publicId = false := by
  cases v
  case obj fields =>
    obtain ⟨poster, hposter, h⟩ := bind_eq_ok.mp h
    obtain rfl := Option.some.inj (Except.ok.inj h)
    obtain ⟨q, -, hposter⟩ := bind_eq_ok.mp hposter
    replace hposter := Except.ok.inj hposter
    split at hposter
    · cases hposter
    next hblank =>
      obtain rfl := Poster.asset.inj hposter
      exact Bool.eq_false_iff.mpr hblank
  all_goals cases h

theorem Config.addressable_of_ok {m : PropertyMap} {descriptors : List Step} {c : Config}
    (h : ofProperties m descriptors = .ok c) : c.Addressable := by
  unfold ofProperties at h
  simp only [bind_eq_ok] at h
  obtain ⟨cloud, -, format, -, poster, hposter, id, -, kind, -, secure, -, overrides, -, formats, -,
    chain, -, cloudName, hcloudName, publicId, hpublicId, h⟩ := h
  obtain rfl := Except.ok.inj h
  constructor
  case cloudName => exact allBlank_of_nonBlank hcloudName
  case publicId => exact allBlank_of_nonBlank hpublicId
  case poster =>
    -- no poster is absent, and one that is set was read from its property
    refine of_property (P := fun _ x => ∀ p, x = some (.asset p) → Text.allBlank p.publicId = false)
      hposter nofun fun v hv p hp => ?_
    rw [hp] at hv
    exact Poster.allBlank_of_ofProperty hv

/-! ## Compiling -/

/-- The sources of a configuration that was read are compiled, whatever it requests. -/
theorem Source.expand_of_addressable {c : Config} (h : c.Addressable) :
    expand c.asset c.formats c.sharedChain c.overrides (.ofSecure c.secure) = .ok c.sources :=
  expand_eq_ok.mpr ⟨Asset.addressFault?_eq_none h.cloudName h.publicId, rfl⟩

namespace Poster

/-- The poster is an asset with an account of its own, which is blank. -/
def BlankAccount (poster : Option Poster) : Prop :=
  ∃ p cloud, poster = some (.asset p) ∧ p.cloudName = some cloud ∧ Text.trim cloud = ""

theorem frameUrl_of_addressable {c : Config} (h : c.Addressable) (secure : Option Bool) :
    ∃ u, frameUrl c.inherited secure = .ok u := by
  have hfault : (⟨c.asset.cloudName, c.asset.publicId, .video, some frameFormat⟩ :
      Asset).addressFault? = none := Asset.addressFault?_eq_none h.cloudName h.publicId
  simp [frameUrl, Config.inherited, Asset.url, hfault]

theorem resolve_of_blankAccount {poster : Option Poster} (h : BlankAccount poster)
    (video : Inherited) :
    resolve poster video = .error (.configuration .cloudNameNeededToAddress) := by
  obtain ⟨p, cloud, rfl, hcloud, hblank⟩ := h
  have hfault : (p.asset video).addressFault? = some .cloudNameNeededToAddress := by
    apply Asset.addressFault?_eq_cloudName
    rw [PosterAsset.asset, hcloud]
    exact (Text.trim_eq_empty_iff cloud).mp hblank
  simp [resolve, Asset.url, hfault]

theorem resolve_of_not_blankAccount {c : Config} (h : c.Addressable)
    (hnot : ¬ BlankAccount c.poster) : ∃ u, resolve c.poster c.inherited = .ok u := by
  cases hposter : c.poster with
  | none => exact frameUrl_of_addressable h none
  | some poster =>
    cases poster with
    | url text => exact ⟨text, rfl⟩
    | frame secure => exact frameUrl_of_addressable h secure
    | asset p =>
      -- the account is that of the video, or one of its own that is not blank
      have hcloud : Text.allBlank (p.cloudName.getD c.asset.cloudName) = false := by
        cases hown : p.cloudName with
        | none => exact h.cloudName
        | some cloud =>
          rw [Option.getD_some, ← Bool.not_eq_true]
          intro hblank
          exact hnot ⟨p, cloud, hposter, hown, (Text.trim_eq_empty_iff cloud).mpr hblank⟩
      have hfault : (p.asset c.inherited).addressFault? = none :=
        Asset.addressFault?_eq_none hcloud (h.poster p hposter)
      exact ⟨_, Asset.url_eq_ok.mpr ⟨hfault, rfl⟩⟩

/-- **The poster is compiled unless it has a blank account of its own.** -/
theorem resolve_eq_error_iff {c : Config} (h : c.Addressable) (e : Error) :
    resolve c.poster c.inherited = .error e ↔
      BlankAccount c.poster ∧ e = .configuration .cloudNameNeededToAddress := by
  constructor
  · intro herror
    by_cases hblank : BlankAccount c.poster
    · rw [resolve_of_blankAccount hblank] at herror
      exact ⟨hblank, (Except.error.inj herror).symm⟩
    · obtain ⟨u, hu⟩ := resolve_of_not_blankAccount h hblank
      rw [hu] at herror
      cases herror
  · rintro ⟨hblank, rfl⟩
    exact resolve_of_blankAccount hblank c.inherited

end Poster

/-! ## Rendering -/

namespace Props

theorem addressable_of_resolve {p : Props} {ctx : Context} {r : Resolved}
    (h : p.resolve ctx = .ok r) : r.config.Addressable :=
  Config.addressable_of_ok (ofProperties_of_resolve h)

/-- What is wrong with properties that do not resolve is found in reading them. -/
theorem foundInReading_of_resolve {p : Props} {ctx : Context} {e : Error}
    (h : p.resolve ctx = .error e) : ∃ cause, e = .configuration cause ∧ cause.FoundInReading := by
  have hread : Config.ofProperties ((p.mergedConfig ctx).erase "fallback")
      (Child.allSteps p.children) = .error e := by
    rcases bind_eq_error.mp h with h | ⟨c, -, h⟩
    · exact h
    · cases h
  cases (Config.ofProperties_eq_error_iff _ _ e).mp hread with
  | malformed _ hcheck _ =>
    obtain ⟨cause, hcause, hfound⟩ := Config.failsAsConfiguration_check _ _ _ hcheck
    exact ⟨cause, hcause, hfound⟩
  | cloudName _ _ => exact ⟨.missingCloudName, rfl, trivial⟩
  | publicId _ _ _ => exact ⟨.missingPublicId, rfl, trivial⟩

end Props

/-- Once properties resolve, their sources are compiled and have a content, so that the rendering
ends as the poster does. -/
theorem Rendered.map_poster_ofResolved {r : Resolved} (h : r.config.Addressable) :
    (ofResolved r).map (fun x => x.element.poster) =
      Poster.resolve r.config.poster r.config.inherited := by
  obtain ⟨played, hplayed⟩ : ∃ played, content r.config.formats r.config.sources = .ok played :=
    ⟨_, content_eq_ok.mpr rfl⟩
  have hsources := Source.expand_of_addressable h
  unfold ofResolved
  simp only [hsources]
  cases Poster.resolve r.config.poster r.config.inherited with
  | ok poster => simp [bind, Except.bind, hplayed, pure, Except.pure, Except.map]
  | error e => simp [bind, Except.bind, Except.map]

/-- Once properties resolve, only the poster can still fail. -/
theorem Rendered.ofResolved_eq_error_iff {r : Resolved} (h : r.config.Addressable) (e : Error) :
    ofResolved r = .error e ↔
      Poster.BlankAccount r.config.poster ∧ e = .configuration .cloudNameNeededToAddress := by
  rw [← Poster.resolve_eq_error_iff h e, ← map_poster_ofResolved h]
  cases ofResolved r with
  | ok x => exact ⟨nofun, nofun⟩
  | error e' => simp [Except.map]

/-- The element has labelled sources exactly when several formats were requested, and then one for
each, in the order of the request. -/
theorem Rendered.multi_iff {r : Resolved} {x : Rendered} (h : ofResolved r = .ok x) :
    ((∃ sources, x.element.content = .multi sources) ↔ 2 ≤ r.config.formats.length) ∧
      ∀ sources, x.element.content = .multi sources →
        sources.map Source.mimeType = r.config.formats.map fun f => some f.mimeType := by
  obtain ⟨sources, hsources, poster, -, played, hplayed, rfl⟩ := ofResolved_eq_ok.mp h
  obtain ⟨-, rfl⟩ := Source.expand_eq_ok.mp hsources
  have hplayed := content_eq_ok.mp hplayed
  subst hplayed
  rcases r.config.formats with _ | ⟨f, _ | ⟨g, rest⟩⟩
  · exact ⟨by simp, nofun⟩
  · exact ⟨by simp, nofun⟩
  · refine ⟨by simp, ?_⟩
    rintro _ ⟨⟩
    simp [Source.labelled]

/-- **Once properties resolve, only one thing can still fail**: the poster has an account of its
own, and that is blank. The sources are compiled whatever is requested. The element has labelled
sources exactly when several formats are requested, one for each of them.

Whether or not properties resolve, a rendering never fails for want of a source or of the first
frame. -/
theorem Props.render_once_resolved (p : Props) (ctx : Context) :
    (∀ r, p.resolve ctx = .ok r →
      ((∃ e, p.render ctx = .error e) ↔ Poster.BlankAccount r.config.poster) ∧
      (∀ e, p.render ctx = .error e → e = .configuration .cloudNameNeededToAddress) ∧
      (∃ sources, Source.expand r.config.asset r.config.formats r.config.sharedChain
        r.config.overrides (.ofSecure r.config.secure) = .ok sources) ∧
      ∀ x, p.render ctx = .ok x →
        ((∃ sources, x.element.content = .multi sources) ↔ 2 ≤ r.config.formats.length) ∧
        ∀ sources, x.element.content = .multi sources →
          sources.map Source.mimeType = r.config.formats.map fun f => some f.mimeType) ∧
    ∀ e, p.render ctx = .error e →
      e ≠ .configuration .noSource ∧ ∀ cause, e ≠ .configuration (.defaultPoster cause) := by
  constructor
  · intro r hr
    have haddressable := addressable_of_resolve hr
    -- rendering goes on where resolving has ended
    have hrender : p.render ctx = Rendered.ofResolved r := by
      unfold render
      rw [hr]
      rfl
    simp only [hrender, Rendered.ofResolved_eq_error_iff haddressable]
    refine ⟨?_, ?_, ⟨_, Source.expand_of_addressable haddressable⟩, fun x hx => ?_⟩
    · constructor
      · rintro ⟨e, hblank, -⟩
        exact hblank
      · exact fun hblank => ⟨_, hblank, rfl⟩
    · rintro e ⟨-, he⟩
      exact he
    · exact Rendered.multi_iff hx
  · intro e he
    rcases bind_eq_error.mp he with he | ⟨r, hr, he⟩
    · obtain ⟨cause, rfl, hfound⟩ := foundInReading_of_resolve he
      refine ⟨?_, fun cause' => ?_⟩
      · rintro ⟨⟩
        exact hfound
      · rintro ⟨⟩
        exact hfound
    · obtain ⟨-, rfl⟩ := (Rendered.ofResolved_eq_error_iff (addressable_of_resolve hr) e).mp he
      exact ⟨nofun, nofun⟩

/-- A video in two formats with a poster that names an account of blanks. -/
def Props.blankAccount : Props where
  attributes := .ofList [("cloudName", .str "demo"), ("publicId", .str "dog"),
    ("sourceTypes", .arr [.str "webm", .str "mp4"]),
    ("poster", .obj [("cloudName", .str " \t"), ("publicId", .str "cat")])]

/-- The account that a poster names, if it is an asset. -/
def Poster.account? : Option Poster → Option String
  | some (.asset p) => p.cloudName
  | _ => none

/-- It resolves, its sources are compiled, and its poster is what fails. -/
theorem Props.render_blankAccount :
    ∃ r, blankAccount.resolve .empty = .ok r ∧ Poster.BlankAccount r.config.poster ∧
      r.config.formats = [.webm, .mp4] ∧
      blankAccount.render .empty = .error (.configuration .cloudNameNeededToAddress) := by
  have hrun : (do
      let r ← blankAccount.resolve .empty
      return (r.config.formats, Poster.account? r.config.poster)) =
        (.ok ([.webm, .mp4], some " \t") : Except Error _) := by
    decide +kernel
  obtain ⟨r, hr, hrun⟩ := bind_eq_ok.mp hrun
  obtain ⟨hformats, haccount⟩ := Prod.mk.inj (Except.ok.inj hrun)
  obtain ⟨p, hposter, hcloud⟩ : ∃ p, r.config.poster = some (.asset p) ∧
      p.cloudName = some " \t" := by
    unfold Poster.account? at haccount
    split at haccount
    next p hposter => exact ⟨p, hposter, haccount⟩
    next => cases haccount
  have hblank : Poster.BlankAccount r.config.poster := ⟨p, _, hposter, hcloud, by decide +kernel⟩
  obtain ⟨hfails, herror, -⟩ := (render_once_resolved blankAccount .empty).1 r hr
  obtain ⟨e, he⟩ := hfails.mpr hblank
  exact ⟨r, hr, hblank, hformats, herror e he ▸ he⟩

end VideoDelivery
