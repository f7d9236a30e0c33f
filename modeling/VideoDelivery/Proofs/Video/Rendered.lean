import VideoDelivery.Proofs.Outcome
import VideoDelivery.Video.Render

/-!
# What a rendering went through

A rendering is a sequence of steps, each of which can fail. A rendering that succeeded went through
all of them, and these lemmas give back what each of them returned.

* `Asset.url_eq_ok`, `Source.expand_eq_ok` — an asset that can be addressed has one address under
  each chain, and the sources are its addresses in the requested formats.
* `Rendered.content_eq_ok` — the content that some sources become.
* `Rendered.ofResolved_eq_ok`, `Props.render_eq_ok` — compiling takes the sources, the poster and
  the content; rendering resolves and compiles.
* `Props.compiled_of_render` — **the snapshot of a rendering is what everything in it was compiled
  from**; so renderings with the same sources and poster play and show the same
  (`Props.render_of_compiled`).
-/

namespace VideoDelivery

/-! ## Lists -/

theorem forall₂_eq_map {α β : Type} {g : α → β} {xs : List α} {ys : List β} :
    List.Forall₂ (fun x y => y = g x) xs ys ↔ ys = xs.map g := by
  induction xs generalizing ys with
  | nil => rw [List.forall₂_nil_left_iff, List.map_nil]
  | cons x xs ih =>
    rw [List.forall₂_cons_left_iff, List.map_cons]
    constructor
    · rintro ⟨y, rest, rfl, hrest, rfl⟩
      rw [ih.mp hrest]
    · rintro rfl
      exact ⟨g x, xs.map g, rfl, ih.mpr rfl, rfl⟩

/-! ## Addresses and sources -/

/-- The address of an asset under a chain: what its URL is, if it can be addressed. -/
def Asset.address (a : Asset) (chain : List Step) (protocol : Protocol) : String :=
  a.uploadPath protocol ++ segmentPath chain ++ a.fileName

theorem Asset.url_eq_ok {a : Asset} {chain : List Step} {protocol : Protocol} {u : String} :
    a.url chain protocol = .ok u ↔ a.addressFault? = none ∧ u = a.address chain protocol := by
  unfold Asset.url
  cases a.addressFault? with
  | none =>
    constructor
    · intro h
      exact ⟨rfl, (Except.ok.inj h).symm⟩
    · rintro ⟨-, rfl⟩
      rfl
  | some cause =>
    constructor
    · intro h
      cases h
    · rintro ⟨h, -⟩
      cases h

namespace Source

/-- The source of an asset in a format. -/
def labelled (asset : Asset) (shared : List Step) (overrides : Overrides) (protocol : Protocol)
    (format : Format) : Source where
  mimeType := some format.mimeType
  url := (asset.withFormat format.extension).address (chainFor overrides shared format) protocol

/-- The sources of an asset in the requested formats: without a request its own address. -/
def addresses (asset : Asset) (formats : List Format) (shared : List Step) (overrides : Overrides)
    (protocol : Protocol) : List Source :=
  if formats.isEmpty then [⟨none, asset.address shared protocol⟩]
  else formats.map (labelled asset shared overrides protocol)

theorem inFormat_eq_ok {asset : Asset} {shared : List Step} {o : Overrides} {protocol : Protocol}
    {f : Format} {s : Source} : inFormat asset shared o protocol f = .ok s ↔
      asset.addressFault? = none ∧ s = labelled asset shared o protocol f := by
  unfold inFormat
  simp only [bind_eq_ok, Asset.url_eq_ok]
  constructor
  · rintro ⟨u, ⟨hfault, rfl⟩, h⟩
    exact ⟨hfault, (Except.ok.inj h).symm⟩
  · rintro ⟨hfault, rfl⟩
    exact ⟨_, ⟨hfault, rfl⟩, rfl⟩

theorem expand_eq_ok {asset : Asset} {formats : List Format} {shared : List Step} {o : Overrides}
    {protocol : Protocol} {sources : List Source} :
    expand asset formats shared o protocol = .ok sources ↔
      asset.addressFault? = none ∧ sources = addresses asset formats shared o protocol := by
  unfold expand addresses
  split
  · simp only [bind_eq_ok, Asset.url_eq_ok]
    constructor
    · rintro ⟨u, ⟨hfault, rfl⟩, h⟩
      exact ⟨hfault, (Except.ok.inj h).symm⟩
    · rintro ⟨hfault, rfl⟩
      exact ⟨_, ⟨hfault, rfl⟩, rfl⟩
  · next hformats =>
    simp only [mapM_eq_ok, inFormat_eq_ok]
    rw [List.forall₂_and_left (p := fun _ => asset.addressFault? = none), forall₂_eq_map]
    constructor
    · rintro ⟨hfault, rfl⟩
      -- there is a request, so the asset has been addressed
      obtain ⟨f, hf⟩ := List.exists_mem_of_ne_nil formats (by simpa using hformats)
      exact ⟨hfault f hf, rfl⟩
    · rintro ⟨hfault, rfl⟩
      exact ⟨fun _ _ => hfault, rfl⟩

end Source

/-! ## The rendering -/

namespace Rendered

/-- Several formats give one labelled source each; the address alone stays otherwise. -/
theorem content_eq_ok {asset : Asset} {formats : List Format} {shared : List Step} {o : Overrides}
    {protocol : Protocol} {x : Content} :
    content formats (Source.addresses asset formats shared o protocol) = .ok x ↔
      x = match formats with
        | [] => .single (asset.address shared protocol)
        | [f] => .single (Source.labelled asset shared o protocol f).url
        | fs => .multi (fs.map (Source.labelled asset shared o protocol)) := by
  unfold content
  -- no request, one format, several formats
  rcases formats with _ | ⟨f, _ | ⟨g, rest⟩⟩
  · exact ⟨fun h => (Except.ok.inj h).symm, fun h => congrArg Except.ok h.symm⟩
  · exact ⟨fun h => (Except.ok.inj h).symm, fun h => congrArg Except.ok h.symm⟩
  · rw [if_pos (by simp)]
    exact ⟨fun h => (Except.ok.inj h).symm, fun h => congrArg Except.ok h.symm⟩

theorem ofResolved_eq_ok {r : Resolved} {x : Rendered} :
    ofResolved r = .ok x ↔
      ∃ sources, Source.expand r.config.asset r.config.formats r.config.sharedChain
          r.config.overrides (.ofSecure r.config.secure) = .ok sources ∧
      ∃ poster, Poster.resolve r.config.poster r.config.inherited = .ok poster ∧
      ∃ played, content r.config.formats sources = .ok played ∧
        x = ⟨⟨played, poster, r.passthrough, r.fallback⟩, ⟨r.config⟩⟩ := by
  unfold ofResolved
  simp only [bind_eq_ok]
  constructor
  · rintro ⟨sources, hsources, poster, hposter, played, hplayed, hx⟩
    exact ⟨sources, hsources, poster, hposter, played, hplayed, (Except.ok.inj hx).symm⟩
  · rintro ⟨sources, hsources, poster, hposter, played, hplayed, rfl⟩
    exact ⟨sources, hsources, poster, hposter, played, hplayed, rfl⟩

end Rendered

theorem Props.render_eq_ok {p : Props} {ctx : Context} {x : Rendered} :
    p.render ctx = .ok x ↔ ∃ r, p.resolve ctx = .ok r ∧ Rendered.ofResolved r = .ok x :=
  bind_eq_ok

/-- The sources that a configuration is compiled to. -/
def Config.sources (c : Config) : List Source :=
  Source.addresses c.asset c.formats c.sharedChain c.overrides (.ofSecure c.secure)

/-- **The snapshot of a rendering is what everything in it was compiled from.** -/
theorem Props.compiled_of_render {p : Props} {ctx : Context} {x : Rendered}
    (h : p.render ctx = .ok x) :
    Poster.resolve x.snapshot.config.poster x.snapshot.config.inherited = .ok x.element.poster ∧
      Rendered.content x.snapshot.config.formats x.snapshot.config.sources =
        .ok x.element.content := by
  obtain ⟨r, -, hcompiled⟩ := Props.render_eq_ok.mp h
  obtain ⟨sources, hsources, poster, hposter, content, hcontent, rfl⟩ :=
    Rendered.ofResolved_eq_ok.mp hcompiled
  obtain ⟨-, rfl⟩ := Source.expand_eq_ok.mp hsources
  exact ⟨hposter, hcontent⟩

/-- Renderings compiled from the same sources and the same poster play and show the same. -/
theorem Props.render_of_compiled {p q : Props} {ctx ctx' : Context} {x y : Rendered}
    (hx : p.render ctx = .ok x) (hy : q.render ctx' = .ok y)
    (hformats : x.snapshot.config.formats = y.snapshot.config.formats)
    (hsources : x.snapshot.config.sources = y.snapshot.config.sources)
    (hposters : Poster.resolve x.snapshot.config.poster x.snapshot.config.inherited =
      Poster.resolve y.snapshot.config.poster y.snapshot.config.inherited) :
    x.element.content = y.element.content ∧ x.element.poster = y.element.poster := by
  obtain ⟨hposter, hcontent⟩ := compiled_of_render hx
  obtain ⟨hposter', hcontent'⟩ := compiled_of_render hy
  rw [hformats, hsources] at hcontent
  rw [hposters] at hposter
  exact ⟨Except.ok.inj (hcontent.symm.trans hcontent'), Except.ok.inj (hposter.symm.trans hposter')⟩

end VideoDelivery
