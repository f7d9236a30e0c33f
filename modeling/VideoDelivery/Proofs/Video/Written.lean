import VideoDelivery.Proofs.Video.Agreement
import VideoDelivery.Proofs.Video.Rendered

/-!
# A rendering sees what is written

The values of parameters enter URLs as text only, so configurations that agree are rendered to the
same URLs. Agreement is followed from the text of a value through tokens, segments and chains to
the sources and the poster.

* `Step.segment?_congr` — steps that agree have one segment.
* `Config.sources_congr`, `Poster.resolve_congr` — the compiled URLs.
* `Props.render_congr` — **renderings from configurations that agree have the same content and
  poster**.
-/

namespace VideoDelivery

open Json (Agree AgreeItems AgreeFields)

/-! ## Tokens -/

namespace Token

theorem scalarText?_congr {v w : Json} (h : Agree v w) : scalarText? v = scalarText? w := by
  cases v <;> cases w <;> try exact h.elim
  case null.null => rfl
  case bool.bool => rw [show _ = _ from h]
  case num.num m n => exact congrArg some h
  case str.str => rw [show _ = _ from h]
  case arr.arr => rfl
  case obj.obj => rfl

theorem map_scalarText?_congr : ∀ {vs ws : List Json}, AgreeItems vs ws →
    vs.map scalarText? = ws.map scalarText?
  | [], [], _ => rfl
  | _ :: _, _ :: _, ⟨hv, hvs⟩ => by
    rw [List.map_cons, List.map_cons, scalarText?_congr hv, map_scalarText?_congr hvs]

theorem valueText?_congr (join : Join) {v w : Json} (h : Agree v w) :
    valueText? join v = valueText? join w := by
  cases v <;> cases w <;> try exact h.elim
  case arr.arr vs ws =>
    -- a list is written from the texts of its elements alone
    have htexts := map_scalarText?_congr h
    have hnone : (vs.all fun v => (scalarText? v).isNone) =
        ws.all fun v => (scalarText? v).isNone := by
      have := congrArg (List.all · Option.isNone) htexts
      rwa [List.all_map, List.all_map] at this
    rw [valueText?, valueText?, hnone, pieces, pieces, htexts]
  all_goals exact scalarText?_congr h

theorem isNull_congr {v w : Json} (h : Agree v w) : v.isNull = w.isNull := by
  cases v <;> cases w <;> first | rfl | exact h.elim

theorem encode_congr_value (name : String) {v w : Json} (h : Agree v w) :
    encode name v = encode name w := by
  unfold encode
  split
  · -- the raw parameter takes over the text of a string
    cases v <;> cases w <;> first | rfl | exact h.elim | rw [show _ = _ from h]
  · split
    · rfl
    · rw [valueText?_congr _ h, isNull_congr h]

end Token

/-! ## Segments -/

namespace Step

theorem filterMap_token_congr : ∀ {fs gs : List (String × Json)}, AgreeFields fs gs →
    fs.filterMap (fun e => Token.ofParameter? e.1 e.2) =
      gs.filterMap fun e => Token.ofParameter? e.1 e.2
  | [], [], _ => rfl
  | (k, v) :: _, (_, w) :: _, ⟨rfl, hv, hvs⟩ => by
    have htoken : Token.ofParameter? k v = Token.ofParameter? k w := by
      rw [Token.ofParameter?, Token.ofParameter?, Token.encode_congr_value k hv]
    rw [List.filterMap_cons, List.filterMap_cons, htoken, filterMap_token_congr hvs]

theorem segment?_congr {a b : Step} (h : a.Agree b) : a.segment? = b.segment? := by
  have htokens : a.tokens = b.tokens := filterMap_token_congr h
  rw [segment?, segment?, tokenTexts, tokenTexts, htokens]

theorem isEmpty_congr {a b : Step} (h : a.Agree b) : a.isEmpty = b.isEmpty := by
  obtain ⟨⟨fs, _⟩, _⟩ := a
  obtain ⟨⟨gs, _⟩, _⟩ := b
  cases fs <;> cases gs <;> first | rfl | exact h.elim

end Step

theorem segmentPath_congr {xs ys : List Step} (h : List.Forall₂ Step.Agree xs ys) :
    segmentPath xs = segmentPath ys := by
  have hsegments : xs.filterMap Step.segment? = ys.filterMap Step.segment? := by
    induction h with
    | nil => rfl
    | cons hstep _ ih => rw [List.filterMap_cons, List.filterMap_cons, Step.segment?_congr hstep, ih]
  rw [segmentPath, segmentPath, hsegments]

theorem Chain.withHead_congr {a b : Step} {xs ys : List Step} (hhead : a.Agree b)
    (hchain : List.Forall₂ Step.Agree xs ys) :
    List.Forall₂ Step.Agree (withHead a xs) (withHead b ys) := by
  unfold withHead
  rw [Step.isEmpty_congr hhead]
  split
  · exact hchain
  · exact .cons hhead hchain

theorem Asset.url_congr (a : Asset) {xs ys : List Step} (h : List.Forall₂ Step.Agree xs ys)
    (protocol : Protocol) : a.url xs protocol = a.url ys protocol := by
  rw [Asset.url, Asset.url, segmentPath_congr h]

theorem Asset.address_congr (a : Asset) {xs ys : List Step} (h : List.Forall₂ Step.Agree xs ys)
    (protocol : Protocol) : a.address xs protocol = a.address ys protocol := by
  rw [Asset.address, Asset.address, segmentPath_congr h]

/-! ## Sources and posters -/

theorem Source.chainFor_congr {o o' : Overrides} {xs ys : List Step} (ho : o.Agree o')
    (h : List.Forall₂ Step.Agree xs ys) (f : Format) :
    List.Forall₂ Step.Agree (chainFor o xs f) (chainFor o' ys f) := by
  -- the format has a step of its own in both, or in neither
  have hstep := ho f
  unfold chainFor
  revert hstep
  generalize o.get? f = x
  generalize o'.get? f = y
  rintro (hstep | _)
  · exact List.rel_append h (.cons hstep .nil)
  · exact h

theorem Source.addresses_congr (asset : Asset) (formats : List Format) {o o' : Overrides}
    {xs ys : List Step} (ho : o.Agree o') (h : List.Forall₂ Step.Agree xs ys)
    (protocol : Protocol) :
    addresses asset formats xs o protocol = addresses asset formats ys o' protocol := by
  have hformat : labelled asset xs o protocol = labelled asset ys o' protocol := by
    funext f
    rw [labelled, labelled, Asset.address_congr _ (chainFor_congr ho h f)]
  rw [addresses, addresses, hformat, Asset.address_congr _ h]

theorem Config.sources_congr {c d : Config} (h : c.Agree d) : c.sources = d.sources := by
  have hshared : List.Forall₂ Step.Agree c.sharedChain d.sharedChain :=
    Chain.withHead_congr h.params h.chain
  rw [sources, sources, h.asset, h.formats, h.secure,
    Source.addresses_congr _ _ h.overrides hshared]

theorem Poster.resolve_congr {x y : Option Poster} (h : Option.Rel Poster.Agree x y)
    (video : Inherited) : resolve x video = resolve y video := by
  cases h with
  | none => rfl
  | @some p q hagree =>
    cases p <;> cases q <;> try exact hagree.elim
    case url.url => rw [show _ = _ from hagree]
    case frame.frame => rw [show _ = _ from hagree]
    case asset.asset p q =>
      have hagree : p.Agree q := hagree
      have hasset : p.asset video = q.asset video := by
        rw [PosterAsset.asset, PosterAsset.asset, hagree.cloudName, hagree.publicId,
          hagree.resourceType, hagree.format]
      rw [resolve, resolve, hasset, hagree.secure]
      exact Asset.url_congr _ (Chain.withHead_congr hagree.params hagree.chain) _

/-! ## Renderings -/

/-- **Renderings from configurations that agree have the same content and poster.** -/
theorem Props.render_congr {p q : Props} {ctx ctx' : Context} {x y : Rendered}
    (hx : p.render ctx = .ok x) (hy : q.render ctx' = .ok y)
    (hagree : x.snapshot.config.Agree y.snapshot.config) :
    x.element.content = y.element.content ∧ x.element.poster = y.element.poster := by
  -- both are compiled from the same sources and the same poster
  refine render_of_compiled hx hy hagree.formats (Config.sources_congr hagree) ?_
  rw [Poster.resolve_congr hagree.poster, Config.inherited, Config.inherited, hagree.asset,
    hagree.secure]

end VideoDelivery
