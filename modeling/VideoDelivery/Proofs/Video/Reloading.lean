import VideoDelivery.Proofs.Identity.Bytes
import VideoDelivery.Proofs.Video.Written
import VideoDelivery.Proofs.Video.ZeroSigns

/-!
# When a media element is kept

Two tests tell the configurations of two renderings apart. The identity bytes compare what is
written; `Snapshot.needsReload` compares values, and where it finds no difference the media element
is kept.

* `Identity.config_identifies` — **identity bytes are equal exactly when configurations agree**,
  and then the elements rendered from them play and show the same.
* `Snapshot.kept_iff_zeroSigns` — **a kept element is on the URLs of the new rendering as long as
  zeros keep their signs**; the kind of the element and the MIME types of its sources never change.
* `Snapshot.kept_on_another_url` — a zero that changes its sign can leave a kept element on a URL
  that the new rendering does not have.
-/

namespace VideoDelivery

/-! ## The identity bytes -/

/-- **Identity bytes identify the configuration.** For configurations all of whose strings, lists
and maps are shorter than `2 ^ 32`, the bytes are equal exactly when the configurations agree in
every part. Equal bytes therefore mean equal URLs, for the sources and for the poster, in whatever
renderings the configurations came from. -/
theorem Identity.config_identifies {c d : Config} (hc : c.WithinLimits) (hd : d.WithinLimits) :
    (Identity.config c = Identity.config d ↔ c.Agree d) ∧
      (Identity.config c = Identity.config d →
        ∀ {p q : Props} {ctx ctx' : Context} {x y : Rendered},
          p.render ctx = .ok x → x.snapshot.config = c →
          q.render ctx' = .ok y → y.snapshot.config = d →
          x.element.content = y.element.content ∧ x.element.poster = y.element.poster) := by
  have hiff : Identity.config c = Identity.config d ↔ c.Agree d :=
    Identity.config_eq_iff (.inl ⟨hc, hd⟩)
  refine ⟨hiff, fun hbytes p q ctx ctx' x y hx hxc hy hyd => ?_⟩
  subst hxc hyd
  exact Props.render_congr hx hy (hiff.mp hbytes)

/-- A step with an overlay alone. -/
def Step.overlaid (value : Json) : Step := Step.empty.insert "overlay" value

theorem Step.entries_overlaid (value : Json) : (overlaid value).entries = [("overlay", value)] := by
  have hname : Parameter.canonicalName? "overlay" = some "overlay" := by decide +kernel
  rw [overlaid, entries_empty_insert, hname]
  rfl

theorem Step.overlaid_withinLimits {value : Json} (h : value.WithinLimits) :
    (overlaid value).WithinLimits := by
  constructor
  · show (overlaid value).entries.length < 2 ^ 32
    rw [entries_overlaid]
    exact show 1 < 2 ^ 32 by decide
  · rw [entries_overlaid]
    exact ⟨show "overlay".utf8ByteSize < 2 ^ 32 by decide, h, trivial⟩

theorem Step.empty_withinLimits : Step.empty.WithinLimits := ⟨show 0 < 2 ^ 32 by decide, trivial⟩

/-- A poster asset with one overlay in its parameters and in its chain. -/
def PosterAsset.overlaid (value : Json) : PosterAsset where
  params := .overlaid value
  chain := [.overlaid value]

theorem PosterAsset.overlaid_withinLimits {value : Json} (h : value.WithinLimits) :
    (overlaid value).WithinLimits where
  cloudName := nofun
  publicId := show "".utf8ByteSize < 2 ^ 32 by decide
  format := nofun
  params := Step.overlaid_withinLimits h
  chain := ⟨show 1 < 2 ^ 32 by decide,
    List.forall_mem_singleton.mpr (Step.overlaid_withinLimits h)⟩

/-- A configuration with one overlay wherever there can be one: in its parameters, its chain, an
override and the poster. -/
def Config.overlaid (value : Json) : Config where
  asset := { cloudName := "demo", publicId := "dog" }
  secure := true
  formats := [.webm, .mp4]
  params := .overlaid value
  chain := [.overlaid value, .empty]
  overrides := Overrides.empty.set .webm (.overlaid value)
  poster := some (.asset (.overlaid value))

theorem Config.overlaid_withinLimits {value : Json} (h : value.WithinLimits) :
    (overlaid value).WithinLimits where
  cloudName := show "demo".utf8ByteSize < 2 ^ 32 by decide
  publicId := show "dog".utf8ByteSize < 2 ^ 32 by decide
  format := nofun
  formats := ⟨show 2 < 2 ^ 32 by decide, fun _ _ => trivial⟩
  params := Step.overlaid_withinLimits h
  chain := ⟨show 2 < 2 ^ 32 by decide, List.forall_mem_cons.mpr
    ⟨Step.overlaid_withinLimits h, List.forall_mem_singleton.mpr Step.empty_withinLimits⟩⟩
  overrides f step hf := by
    rw [overlaid, Overrides.get?_set] at hf
    -- the one format that has an override, or another
    split at hf
    · cases hf
      exact Step.overlaid_withinLimits h
    · cases hf
  poster := by
    rintro _ ⟨⟩
    exact PosterAsset.overlaid_withinLimits h

/-- Two overlays of one length, with the same texts in the same order, are told apart by where
their inner lists end. -/
theorem Identity.config_overlaid_ne :
    let left : Json := .arr [.arr [.str "a", .str "b"], .arr [], .obj [("c", .arr [.str "d"])]]
    let right : Json := .arr [.arr [.str "a"], .arr [.str "b"], .obj [("c", .arr [.str "d"])]]
    (Config.overlaid left).WithinLimits ∧ (Config.overlaid right).WithinLimits ∧
      Identity.config (.overlaid left) ≠ Identity.config (.overlaid right) := by
  intro left right
  have hleft : (Config.overlaid left).WithinLimits := Config.overlaid_withinLimits (by
    simp only [left, Json.WithinLimits, Json.WithinLimitsItems, Json.WithinLimitsFields,
      TextWithinLimits]
    decide)
  have hright : (Config.overlaid right).WithinLimits := Config.overlaid_withinLimits (by
    simp only [right, Json.WithinLimits, Json.WithinLimitsItems, Json.WithinLimitsFields,
      TextWithinLimits]
    decide)
  refine ⟨hleft, hright, fun hbytes => ?_⟩
  have hagree : (Step.overlaid left).Agree (Step.overlaid right) :=
    ((Identity.config_identifies hleft hright).1.mp hbytes).params
  rw [Step.Agree, Step.entries_overlaid, Step.entries_overlaid] at hagree
  obtain ⟨-, hvalue, -⟩ := hagree
  -- the first inner list has a text more on the left
  exact hvalue.1.2

/-! ## Keeping the element -/

theorem Snapshot.same_of_kept {s t : Snapshot} (h : s.needsReload t = false) :
    (s.config == t.config) = true := by
  show (s == t) = true
  exact Bool.not_eq_eq_eq_not.mp h

/-- What a content offers apart from URLs: whether there is a URL on the element itself, and the
MIME types of its sources. -/
def Element.offer (e : Element) : Bool × List (Option String) :=
  (e.src?.isSome, e.sources.map Source.mimeType)

theorem Props.offer_of_render {p : Props} {ctx : Context} {x : Rendered}
    (h : p.render ctx = .ok x) :
    x.element.offer =
      if x.snapshot.config.formats.length ≤ 1 then (true, [])
      else (false, x.snapshot.config.formats.map fun f => some f.mimeType) := by
  obtain ⟨-, hcontent⟩ := compiled_of_render h
  have hcontent := Rendered.content_eq_ok.mp hcontent
  -- the number of formats alone decides the kind
  unfold Element.offer Element.src? Element.sources
  rw [hcontent]
  rcases x.snapshot.config.formats with _ | ⟨f, _ | ⟨g, rest⟩⟩
  · rfl
  · rfl
  · rw [if_neg (by simp)]
    simp only [List.map_map]
    rfl

/-- **Keeping the element is sound as long as zeros keep their signs.** When no reload is needed,
the element has the kind it had, and the sources have the MIME types they had. If every zero in the
new configuration has the sign it had, the URLs of the sources, the poster and the fingerprint are
what they were; and exactly in this case the identity bytes are. -/
theorem Snapshot.kept_iff_zeroSigns {p q : Props} {ctx ctx' : Context} {x y : Rendered}
    (hx : p.render ctx = .ok x) (hy : q.render ctx' = .ok y)
    (hkept : x.snapshot.needsReload y.snapshot = false) :
    x.element.offer = y.element.offer ∧
      (x.snapshot.config.zeroSigns = y.snapshot.config.zeroSigns →
        x.element.content = y.element.content ∧ x.element.poster = y.element.poster ∧
          x.snapshot.fingerprint = y.snapshot.fingerprint) ∧
      (Identity.config x.snapshot.config = Identity.config y.snapshot.config ↔
        x.snapshot.config.zeroSigns = y.snapshot.config.zeroSigns) := by
  have hsame := same_of_kept hkept
  have hformats : x.snapshot.config.formats = y.snapshot.config.formats :=
    (Config.same_iff.mp hsame).2.2.1
  have hsigns := Config.eq_iff_zeroSigns_of_same hsame
  have hbytes := Identity.config_eq_iff (.inr hsame)
  refine ⟨?_, fun hzeros => ?_, fun hequal => ?_, fun hzeros => ?_⟩
  · rw [Props.offer_of_render hx, Props.offer_of_render hy, hformats]
  · -- with their signs all values are equal, so everything compiled from them is
    have hconfig := hsigns.mpr hzeros
    have hagree := hbytes.mp (congrArg Identity.config hconfig)
    obtain ⟨hcontent, hposter⟩ := Props.render_congr hx hy hagree
    exact ⟨hcontent, hposter, congrArg Fingerprint.ofBytes (Identity.config_congr hagree)⟩
  · exact hsigns.mp (Config.eq_of_agree hsame (hbytes.mp hequal))
  · exact congrArg Identity.config (hsigns.mpr hzeros)

/-- A video whose width is a zero of the given sign. -/
def Props.zeroWide (negative : Bool) : Props :=
  Props.empty.attr "cloudName" (.str "demo") |>.attr "publicId" (.str "dog")
    |>.attr "width" (.num (.float (.zero negative)))

/-- The two zeros are rendered to two URLs, and the element is kept from one to the other. -/
theorem Props.render_zeroWide :
    ∃ x y, (zeroWide false).render .empty = .ok x ∧ (zeroWide true).render .empty = .ok y ∧
      x.snapshot.needsReload y.snapshot = false ∧
      x.snapshot.config.zeroSigns = [false] ∧ y.snapshot.config.zeroSigns = [true] ∧
      x.element.src? = some "http://res.cloudinary.com/demo/video/upload/w_0.0/dog" ∧
      y.element.src? = some "http://res.cloudinary.com/demo/video/upload/w_-0.0/dog" := by
  have hrun : (do
      let x ← (zeroWide false).render .empty
      let y ← (zeroWide true).render .empty
      return (x.snapshot.needsReload y.snapshot, x.snapshot.config.zeroSigns,
        y.snapshot.config.zeroSigns, x.element.src?, y.element.src?)) =
      (.ok (false, [false], [true],
        some "http://res.cloudinary.com/demo/video/upload/w_0.0/dog",
        some "http://res.cloudinary.com/demo/video/upload/w_-0.0/dog") : Except Error _) := by
    decide +kernel
  obtain ⟨x, hx, hrun⟩ := bind_eq_ok.mp hrun
  obtain ⟨y, hy, hrun⟩ := bind_eq_ok.mp hrun
  have hresult := Except.ok.inj hrun
  simp only [Prod.mk.injEq] at hresult
  exact ⟨x, y, hx, hy, hresult⟩

/-- Where a zero changes its sign, the identity bytes change although the element is kept. -/
theorem Snapshot.kept_zeroWide :
    ∃ x y, (Props.zeroWide false).render .empty = .ok x ∧
      (Props.zeroWide true).render .empty = .ok y ∧ x.snapshot.needsReload y.snapshot = false ∧
      x.element.offer = y.element.offer ∧
      Identity.config x.snapshot.config ≠ Identity.config y.snapshot.config := by
  obtain ⟨x, y, hx, hy, hkept, hsigns, hsigns', -, -⟩ := Props.render_zeroWide
  obtain ⟨hoffer, -, hbytes⟩ := Snapshot.kept_iff_zeroSigns hx hy hkept
  refine ⟨x, y, hx, hy, hkept, hoffer, fun hequal => ?_⟩
  have hzeros := hbytes.mp hequal
  rw [hsigns, hsigns'] at hzeros
  exact absurd hzeros (by decide)

/-- **A kept element can be on another URL.** -/
theorem Snapshot.kept_on_another_url :
    ¬ ∀ (p q : Props) (ctx ctx' : Context) (x y : Rendered),
      p.render ctx = .ok x → q.render ctx' = .ok y → x.snapshot.needsReload y.snapshot = false →
        x.element.src? = y.element.src? := by
  intro hsound
  obtain ⟨x, y, hx, hy, hkept, -, -, hurl, hurl'⟩ := Props.render_zeroWide
  have hequal := hsound _ _ _ _ x y hx hy hkept
  rw [hurl, hurl'] at hequal
  exact absurd hequal (by decide)

end VideoDelivery
