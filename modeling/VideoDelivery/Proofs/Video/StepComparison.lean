import VideoDelivery.Proofs.Transformation.WrittenForm
import VideoDelivery.Proofs.Video.Addresses
import VideoDelivery.Proofs.Video.Presentation
import VideoDelivery.Proofs.Video.Reloading

/-!
# Configurations with other steps

Whether an element is loaded anew is decided by the values of the steps, and what it plays by their
segments. The two need not go together: a number and the text of it have one segment and are not the
same value, so an element can be loaded anew to play what it played before.

* `Config.sources_of_segments` — what a configuration plays is decided by the segments of its
  steps.
* `Config.needsReload_eq` — whether it is played anew is decided by their values.
* `Config.toldBySegments` — **what the segments of two configurations tell of them**, and what they
  do not.
* `Step.compared_by_value` — steps with one segment can be different ones, and the element is loaded
  anew for them.
-/

namespace VideoDelivery

theorem Source.filterMap_chainFor_congr (o : Overrides) {xs ys : List Step}
    (h : xs.filterMap Step.segment? = ys.filterMap Step.segment?) (f : Format) :
    (chainFor o xs f).filterMap Step.segment? = (chainFor o ys f).filterMap Step.segment? := by
  unfold chainFor
  cases o.get? f with
  | none => exact h
  | some step =>
    -- the step of its own comes after the same segments
    show (xs ++ [step]).filterMap _ = (ys ++ [step]).filterMap _
    rw [List.filterMap_append, List.filterMap_append, h]

namespace Config

/-- The steps that all formats share, the flat parameters in front. -/
def steps (c : Config) : List Step := c.params :: c.chain

/-- The configurations differ in these steps at most. -/
structure SameApartFromSteps (c d : Config) : Prop where
  asset : c.asset = d.asset
  secure : c.secure = d.secure
  formats : c.formats = d.formats
  overrides : c.overrides = d.overrides
  poster : c.poster = d.poster

section

variable {c d : Config}

/-! ## What is played -/

/-- What a configuration plays is decided by the segments of its steps. -/
theorem sources_of_segments (hrest : c.SameApartFromSteps d)
    (h : c.steps.filterMap Step.segment? = d.steps.filterMap Step.segment?) :
    c.sources = d.sources := by
  have hshared : c.sharedChain.filterMap Step.segment? =
      d.sharedChain.filterMap Step.segment? := by
    rw [sharedChain, sharedChain, Chain.filterMap_withHead, Chain.filterMap_withHead]
    exact h
  have haddress : ∀ (a : Asset) (protocol : Protocol),
      a.address c.sharedChain protocol = a.address d.sharedChain protocol := by
    intro a protocol
    rw [Asset.address_eq, Asset.address_eq, hshared]
  have hformat : ∀ (a : Asset) (o : Overrides) (protocol : Protocol),
      Source.labelled a c.sharedChain o protocol = Source.labelled a d.sharedChain o protocol := by
    intro a o protocol
    funext f
    rw [Source.labelled, Source.labelled, Asset.address_eq, Asset.address_eq,
      Source.filterMap_chainFor_congr o hshared f]
  rw [sources, sources, Source.addresses, Source.addresses, hrest.asset, hrest.secure,
    hrest.formats, hrest.overrides, hformat, haddress]

theorem render_of_segments (hrest : c.SameApartFromSteps d)
    (h : c.steps.filterMap Step.segment? = d.steps.filterMap Step.segment?) {p q : Props}
    {ctx ctx' : Context} {x y : Rendered} (hx : p.render ctx = .ok x) (hxc : x.snapshot.config = c)
    (hy : q.render ctx' = .ok y) (hyd : y.snapshot.config = d) :
    x.element.content = y.element.content ∧ x.element.poster = y.element.poster := by
  subst hxc hyd
  refine Props.render_of_compiled hx hy hrest.formats (sources_of_segments hrest h) ?_
  rw [hrest.poster, inherited, inherited, hrest.asset, hrest.secure]

/-! ## What is played anew -/

/-- Whether an element is loaded anew is decided by the values of its steps. -/
theorem needsReload_eq (hrest : c.SameApartFromSteps d) :
    Snapshot.needsReload ⟨c⟩ ⟨d⟩ = !(c.steps == d.steps) := by
  have hsame : (c == d) = (c.steps == d.steps) := by
    rw [Bool.eq_iff_iff, same_iff, steps, steps, List.cons_beq_cons, Bool.and_eq_true]
    constructor
    · rintro ⟨-, -, -, hparams, hchain, -, -⟩
      exact ⟨hparams, hchain⟩
    · rintro ⟨hparams, hchain⟩
      -- the rest is equal, and so the same
      obtain ⟨-, -, -, -, -, hoverrides, hposter⟩ := same_iff.mp d.same_refl
      rw [hrest.overrides, hrest.poster]
      exact ⟨hrest.asset, hrest.secure, hrest.formats, hparams, hchain, hoverrides, hposter⟩
  exact congrArg Bool.not hsame

/-! ## What segments tell -/

/-- What the segments of configurations with other steps tell of them. -/
structure ToldBySegments (c d : Config) : Prop where
  /-- Steps have one segment and one raw text exactly when they have one written form. -/
  step : ∀ s ∈ c.steps, ∀ t ∈ d.steps, s.SameText t ↔ s.written = t.written
  /-- Where all segments are the same, renderings play and show the same. -/
  played : c.steps.filterMap Step.segment? = d.steps.filterMap Step.segment? →
    ∀ {p q : Props} {ctx ctx' : Context} {x y : Rendered},
      p.render ctx = .ok x → x.snapshot.config = c →
      q.render ctx' = .ok y → y.snapshot.config = d →
      x.element.content = y.element.content ∧ x.element.poster = y.element.poster
  /-- The element is loaded anew all the same if the values of the steps are not. -/
  reload : Snapshot.needsReload ⟨c⟩ ⟨d⟩ = !(c.steps == d.steps)
  /-- It is kept where each value is its own text. -/
  kept : (∀ s ∈ c.steps, s.WrittenOut) → (∀ t ∈ d.steps, t.WrittenOut) →
    List.Forall₂ Step.SameText c.steps d.steps → Snapshot.needsReload ⟨c⟩ ⟨d⟩ = false

/-- **What segments tell.** Let two configurations differ in nothing but the steps that all formats
share, and let no token in these have a comma in its text. A segment with its raw text tells the
written form of a step. With the same segments the two play and show the same. But the element is
loaded anew whenever a value differs, and it is certain to be kept only where values are their own
texts. -/
theorem toldBySegments (hrest : c.SameApartFromSteps d) (hc : ∀ s ∈ c.steps, s.CommaFree)
    (hd : ∀ t ∈ d.steps, t.CommaFree) : c.ToldBySegments d where
  step s hs t ht := Step.sameText_iff (hc s hs) (hd t ht)
  played := render_of_segments hrest
  reload := needsReload_eq hrest
  kept hc' hd' htexts := by
    -- texts that are told by the segments leave nothing else to differ in
    have hsteps := Step.list_eq_of_writtenOut htexts (fun s hs => ⟨hc s hs, hc' s hs⟩)
      fun t ht => ⟨hd t ht, hd' t ht⟩
    rw [needsReload_eq hrest, hsteps, BEq.rfl, Bool.not_true]

end

end Config

theorem Overrides.eq_empty_of_isEmpty {o : Overrides} (h : o.isEmpty = true) : o = .empty := by
  refine ext_get? fun f => ?_
  have hnone := List.filterMap_eq_nil_iff.mp (List.isEmpty_iff.mp h) f f.mem_all
  exact Option.map_eq_none_iff.mp hnone

/-- A configuration of an asset and steps alone. -/
def Config.isPlain (c : Config) (a : Asset) : Bool :=
  c.asset = a && !c.secure && c.formats.isEmpty && c.overrides.isEmpty && c.poster.isNone

theorem Config.sameApartFromSteps_of_isPlain {a : Asset} {c d : Config} (hc : c.isPlain a = true)
    (hd : d.isPlain a = true) : c.SameApartFromSteps d := by
  simp only [isPlain, Bool.and_eq_true, decide_eq_true_iff, Bool.not_eq_true', List.isEmpty_iff,
    Option.isNone_iff_eq_none] at hc hd
  obtain ⟨⟨⟨⟨hasset, hsecure⟩, hformats⟩, hoverrides⟩, hposter⟩ := hc
  obtain ⟨⟨⟨⟨hasset', hsecure'⟩, hformats'⟩, hoverrides'⟩, hposter'⟩ := hd
  exact {
    asset := hasset.trans hasset'.symm
    secure := hsecure.trans hsecure'.symm
    formats := hformats.trans hformats'.symm
    overrides := (Overrides.eq_empty_of_isEmpty hoverrides).trans
      (Overrides.eq_empty_of_isEmpty hoverrides').symm
    poster := hposter.trans hposter'.symm }

/-- A video of the given quality. -/
def Props.ofQuality (quality : Json) : Props :=
  Props.empty.attr "cloudName" (.str "demo") |>.attr "publicId" (.str "dog")
    |>.attr "quality" quality

/-- A number and the text of it are rendered to one segment, and the element is loaded anew. -/
theorem Props.render_ofQuality :
    ∃ x y, (ofQuality (.ofNat 70)).render .empty = .ok x ∧
      (ofQuality (.str "70")).render .empty = .ok y ∧
      x.snapshot.config.SameApartFromSteps y.snapshot.config ∧
      (∀ s ∈ x.snapshot.config.steps ++ y.snapshot.config.steps, s.CommaFree) ∧
      x.snapshot.config.steps.map Step.segment? = [some "q_70"] ∧
      y.snapshot.config.steps.map Step.segment? = [some "q_70"] ∧
      x.snapshot.needsReload y.snapshot = true := by
  let a : Asset := ⟨"demo", "dog", .video, none⟩
  have hrun : (do
      let x ← (ofQuality (.ofNat 70)).render .empty
      let y ← (ofQuality (.str "70")).render .empty
      return (x.snapshot.config.isPlain a && y.snapshot.config.isPlain a &&
          (x.snapshot.config.steps ++ y.snapshot.config.steps).all (decide ·.CommaFree) &&
          x.snapshot.needsReload y.snapshot,
        x.snapshot.config.steps.map Step.segment?, y.snapshot.config.steps.map Step.segment?)) =
      (.ok (true, [some "q_70"], [some "q_70"]) : Except Error _) := by
    decide +kernel
  obtain ⟨x, hx, hrun⟩ := bind_eq_ok.mp hrun
  obtain ⟨y, hy, hrun⟩ := bind_eq_ok.mp hrun
  have hresult := Except.ok.inj hrun
  simp only [Prod.mk.injEq, Bool.and_eq_true, List.all_eq_true, decide_eq_true_iff] at hresult
  obtain ⟨⟨⟨⟨hplain, hplain'⟩, hcommas⟩, hreload⟩, hsegments, hsegments'⟩ := hresult
  exact ⟨x, y, hx, hy, Config.sameApartFromSteps_of_isPlain hplain hplain', hcommas, hsegments,
    hsegments', hreload⟩

/-- The two play the same, and what they have in common is the written form of their steps. -/
theorem Config.toldBySegments_ofQuality :
    ∃ x y, (Props.ofQuality (.ofNat 70)).render .empty = .ok x ∧
      (Props.ofQuality (.str "70")).render .empty = .ok y ∧
      x.element.content = y.element.content ∧ x.element.poster = y.element.poster ∧
      (x.snapshot.config.steps == y.snapshot.config.steps) = false := by
  obtain ⟨x, y, hx, hy, hrest, hcommas, hsegments, hsegments', hreload⟩ :=
    Props.render_ofQuality
  obtain ⟨hc, hd⟩ := List.forall_mem_append.mp hcommas
  have htold := Config.toldBySegments hrest hc hd
  have hlist : ∀ xs : List Step, xs.filterMap Step.segment? =
      (xs.map Step.segment?).filterMap id := fun xs => by
    rw [List.filterMap_map]
    rfl
  obtain ⟨hcontent, hposter⟩ :=
    htold.played (by rw [hlist, hlist, hsegments, hsegments']) hx rfl hy rfl
  have hvalues := htold.reload.symm.trans hreload
  exact ⟨x, y, hx, hy, hcontent, hposter, by simpa using hvalues⟩

/-- **Steps with one segment can be different ones.** So an element can be loaded anew although all
segments are what they were. -/
theorem Step.compared_by_value :
    (¬ ∀ calls calls' : List (String × Json),
      (empty.insertAll calls).segment? = (empty.insertAll calls').segment? →
        (empty.insertAll calls == empty.insertAll calls') = true) ∧
    ¬ ∀ (p q : Props) (ctx ctx' : Context) (x y : Rendered),
      p.render ctx = .ok x → q.render ctx' = .ok y →
      x.snapshot.config.SameApartFromSteps y.snapshot.config →
      x.snapshot.config.steps.map Step.segment? = y.snapshot.config.steps.map Step.segment? →
        x.snapshot.needsReload y.snapshot = false := by
  constructor
  · intro hequal
    have hsame := hequal [("quality", .ofNat 70)] [("quality", .str "70")] (by decide +kernel)
    exact absurd hsame (by decide +kernel)
  · intro hkept
    obtain ⟨x, y, hx, hy, hrest, -, hsegments, hsegments', hreload⟩ := Props.render_ofQuality
    have hkept := hkept _ _ _ _ x y hx hy hrest (hsegments.trans hsegments'.symm)
    rw [hreload] at hkept
    cases hkept

end VideoDelivery
