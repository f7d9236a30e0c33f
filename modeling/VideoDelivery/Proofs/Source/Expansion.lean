import VideoDelivery.Proofs.Video.Addresses

/-!
# Sources format by format

Requested formats are expanded one after the other, and nothing is carried over from one to the
next: neither the step of its own that a format had, nor the extension that the asset was given.
Each source is a function of what is said of its own format (`Source.inOwnFormat`), so whatever is
done to the request is done to the sources in the same way.

* `Source.expand_eq` — what an expansion ends in, the failure included.
* `Source.getElem?_of_expand` — the source at each place of a request.
* `Source.expandedSeparately` — **sources are expanded format by format**.
-/

namespace VideoDelivery

namespace Source

/-- The source of a file in a format, from its account, its identifier and its type, the steps that
all formats share, and the step of its own that the format has. -/
def inOwnFormat (cloud id : String) (kind : ResourceType) (shared : List Step) (protocol : Protocol)
    (own : Option Step) (f : Format) : Source where
  mimeType := some f.mimeType
  url := deliveryUrl protocol cloud kind ((shared ++ own.toList).filterMap Step.segment?)
    (id ++ "." ++ f.token)

section

variable {asset : Asset} {shared : List Step} {o o' : Overrides} {protocol : Protocol}
  {formats : List Format} {sources sources' : List Source}

/-! ## What an expansion ends in -/

theorem inFormat_of_fault {cause : Cause} (h : asset.addressFault? = some cause) (f : Format) :
    inFormat asset shared o protocol f = .error (.configuration cause) := by
  have hfault : (asset.withFormat f.extension).addressFault? = some cause := h
  rw [inFormat, Asset.url, hfault]
  rfl

/-- **What an expansion ends in.** An asset that cannot be addressed fails for that reason whatever
is requested, and any other one has a source for each format. -/
theorem expand_eq : expand asset formats shared o protocol =
    match asset.addressFault? with
    | some cause => .error (.configuration cause)
    | none => .ok (addresses asset formats shared o protocol) := by
  cases hfault : asset.addressFault? with
  | none => exact expand_eq_ok.mpr ⟨hfault, rfl⟩
  | some cause =>
    cases formats with
    | nil =>
      rw [expand, Asset.url, hfault]
      rfl
    | cons f rest =>
      -- the first format fails, and the others are not looked at
      rw [expand, if_neg (by simp), List.mapM_cons, inFormat_of_fault hfault]
      rfl

theorem expand_eq_error_iff : (∃ e, expand asset formats shared o protocol = .error e) ↔
    Text.trim asset.cloudName = "" ∨ Text.trim asset.publicId = "" := by
  rw [expand_eq, Text.trim_eq_empty_iff, Text.trim_eq_empty_iff, Asset.addressFault?]
  cases Text.allBlank asset.cloudName <;> cases Text.allBlank asset.publicId <;> simp

theorem expand_nil : expand asset [] shared o protocol =
    (fun url => [⟨none, url⟩]) <$> asset.url shared protocol := by
  unfold expand
  cases asset.url shared protocol <;> rfl

/-! ## One source -/

theorem labelled_eq (f : Format) : labelled asset shared o protocol f =
    inOwnFormat asset.cloudName asset.publicId asset.resourceType shared protocol (o.get? f) f := by
  have hchain : chainFor o shared f = shared ++ (o.get? f).toList := by
    rw [chainFor]
    cases o.get? f with
    | none => exact (List.append_nil shared).symm
    | some step => rfl
  rw [labelled, inOwnFormat, Asset.address_eq, Asset.fileName_withFormat, hchain,
    String.append_assoc]
  rfl

theorem addresses_of_ne_nil (h : formats ≠ []) : addresses asset formats shared o protocol =
    formats.map fun f => inOwnFormat asset.cloudName asset.publicId asset.resourceType shared
      protocol (o.get? f) f := by
  rw [addresses, if_neg (by simpa using h)]
  exact List.map_congr_left fun f _ => labelled_eq f

/-- A request has the sources of its formats. -/
theorem eq_of_expand (hne : formats ≠ [])
    (h : expand asset formats shared o protocol = .ok sources) :
    sources = formats.map fun f => inOwnFormat asset.cloudName asset.publicId asset.resourceType
      shared protocol (o.get? f) f := by
  obtain ⟨-, rfl⟩ := expand_eq_ok.mp h
  exact addresses_of_ne_nil hne

/-- **The source at each place of a request** is that of the format there. -/
theorem getElem?_of_expand (h : expand asset formats shared o protocol = .ok sources) {k : Nat}
    {f : Format} (hk : formats[k]? = some f) : sources[k]? = some (inOwnFormat asset.cloudName
      asset.publicId asset.resourceType shared protocol (o.get? f) f) := by
  have hne : formats ≠ [] := List.ne_nil_of_mem (List.mem_of_getElem? hk)
  rw [eq_of_expand hne h, List.getElem?_map, hk, Option.map_some]

/-! ## Several expansions -/

/-- Two expansions of one file have one source for a format that has one override in both. -/
theorem exists_source_of_alike {asset' : Asset} {formats' : List Format}
    (hasset : ∃ format, asset' = { asset with format })
    (h : expand asset formats shared o protocol = .ok sources)
    (h' : expand asset' formats' shared o' protocol = .ok sources') {i j : Nat} {f : Format}
    (hi : formats[i]? = some f) (hj : formats'[j]? = some f) (hown : o.get? f = o'.get? f) :
    ∃ source, sources[i]? = some source ∧ sources'[j]? = some source := by
  obtain ⟨format, rfl⟩ := hasset
  have hsource' := getElem?_of_expand h' hj
  rw [← hown] at hsource'
  exact ⟨_, getElem?_of_expand h hi, hsource'⟩

/-- The override of a format has an effect on no other source. -/
theorem getElem?_of_others {f : Format} (ho : ∀ g, g ≠ f → o.get? g = o'.get? g)
    (h : expand asset formats shared o protocol = .ok sources)
    (h' : expand asset formats shared o' protocol = .ok sources') {k : Nat}
    (hk : formats[k]? ≠ some f) : sources[k]? = sources'[k]? := by
  cases hformat : formats[k]? with
  | some g =>
    -- another format, which has the override that it had
    have hne : g ≠ f := fun heq => hk (hformat.trans (congrArg some heq))
    obtain ⟨source, hsource, hsource'⟩ :=
      exists_source_of_alike ⟨asset.format, rfl⟩ h h' hformat hformat (ho g hne)
    rw [hsource, hsource']
  | none =>
    -- past the last format there is a source only if nothing is requested
    cases formats with
    | nil =>
      rw [expand_nil] at h h'
      rw [Except.ok.inj (h.symm.trans h')]
    | cons g rest =>
      have hrequested := List.cons_ne_nil g rest
      rw [eq_of_expand hrequested h, eq_of_expand hrequested h', List.getElem?_map,
        List.getElem?_map, hformat]
      rfl

theorem expand_picked {positions : List Nat}
    (h : expand asset formats shared o protocol = .ok sources)
    (hne : positions.filterMap (formats[·]?) ≠ []) :
    expand asset (positions.filterMap (formats[·]?)) shared o protocol =
      .ok (positions.filterMap (sources[·]?)) := by
  obtain ⟨hfault, -⟩ := expand_eq_ok.mp h
  -- something was picked, so something was requested
  obtain ⟨f, hf⟩ := List.exists_mem_of_ne_nil _ hne
  obtain ⟨i, -, hi⟩ := List.mem_filterMap.mp hf
  have hformats : formats ≠ [] := List.ne_nil_of_mem (List.mem_of_getElem? hi)
  refine expand_eq_ok.mpr ⟨hfault, ?_⟩
  rw [addresses_of_ne_nil hne, eq_of_expand hformats h, List.map_filterMap]
  congr 1
  funext i
  exact List.getElem?_map

theorem expand_append {xs ys : List Format} (hxs : xs ≠ []) (hys : ys ≠ []) :
    expand asset (xs ++ ys) shared o protocol = (do
      let before ← expand asset xs shared o protocol
      let after ← expand asset ys shared o protocol
      return before ++ after) := by
  have hne : xs ++ ys ≠ [] := List.append_ne_nil_of_left_ne_nil hxs ys
  rw [expand_eq, expand_eq, expand_eq]
  cases asset.addressFault? with
  | some cause => rfl
  | none =>
    dsimp only
    rw [addresses_of_ne_nil hne, addresses_of_ne_nil hxs, addresses_of_ne_nil hys, List.map_append]
    rfl

end

/-- What it means that an asset is expanded format by format. -/
structure ExpandedSeparately (asset : Asset) (shared : List Step) (o : Overrides)
    (protocol : Protocol) : Prop where
  /-- It fails when the account or the identifier is blank, whatever is requested. -/
  fails : ∀ formats, (∃ e, expand asset formats shared o protocol = .error e) ↔
    Text.trim asset.cloudName = "" ∨ Text.trim asset.publicId = ""
  /-- Without a request there is the address of the asset as it is, and overrides do not matter. -/
  unrequested : ∀ o', expand asset [] shared o' protocol =
    (fun url => [⟨none, url⟩]) <$> asset.url shared protocol
  /-- With one there is a source for each format, a function of what is said of that format. -/
  requested : ∀ formats sources, formats ≠ [] →
    expand asset formats shared o protocol = .ok sources →
    sources = formats.map fun f => inOwnFormat asset.cloudName asset.publicId asset.resourceType
      shared protocol (o.get? f) f
  /-- So wherever two requests have one format with one override, they have one source there, even
  if the assets differ in their own format. -/
  alike : ∀ asset' o' formats formats' sources sources',
    (∃ format, asset' = { asset with format }) →
    expand asset formats shared o protocol = .ok sources →
    expand asset' formats' shared o' protocol = .ok sources' →
    ∀ (i j : Nat) f, formats[i]? = some f → formats'[j]? = some f → o.get? f = o'.get? f →
      ∃ source, sources[i]? = some source ∧ sources'[j]? = some source
  /-- Whatever becomes of the override of one format, no other source changes. -/
  others : ∀ f o', (∀ g, g ≠ f → o.get? g = o'.get? g) → ∀ formats sources sources',
    expand asset formats shared o protocol = .ok sources →
    expand asset formats shared o' protocol = .ok sources' →
    ∀ k : Nat, formats[k]? ≠ some f → sources[k]? = sources'[k]?
  /-- Formats that are picked from a request, in whatever order and how often, have the sources that
  are picked in the same way. -/
  picked : ∀ formats sources (positions : List Nat),
    expand asset formats shared o protocol = .ok sources →
    positions.filterMap (formats[·]?) ≠ [] →
    expand asset (positions.filterMap (formats[·]?)) shared o protocol =
      .ok (positions.filterMap (sources[·]?))
  /-- Requests one after the other have their sources one after the other. -/
  appended : ∀ xs ys, xs ≠ [] → ys ≠ [] → expand asset (xs ++ ys) shared o protocol = do
    let before ← expand asset xs shared o protocol
    let after ← expand asset ys shared o protocol
    return before ++ after

/-- **Sources are expanded format by format.** An expansion fails only for an asset that cannot be
addressed. Each source depends on the asset apart from its own format, on its format, on the steps
that all formats share, on the protocol and on the override of that very format; so the sources of a
changed request are the sources of the request, changed in the same way. -/
theorem expandedSeparately (asset : Asset) (shared : List Step) (o : Overrides)
    (protocol : Protocol) : ExpandedSeparately asset shared o protocol where
  fails _ := expand_eq_error_iff
  unrequested _ := expand_nil
  requested _ _ := eq_of_expand
  alike _ _ _ _ _ _ hasset h h' _ _ _ := exists_source_of_alike hasset h h'
  others _ _ ho _ _ _ h h' _ := getElem?_of_others ho h h'
  picked _ _ _ := expand_picked
  appended _ _ := expand_append

/-- An override between two formats without one touches neither of them, and the format of the asset
itself shows in no source. -/
example : expand ⟨"demo", "dog", .video, some "mov"⟩ [.webm, .mp4, .webm] []
    (Overrides.empty.set .mp4 (Step.empty.insert "quality" (.ofNat 50))) .https = .ok [
      ⟨some "video/webm", "https://res.cloudinary.com/demo/video/upload/dog.webm"⟩,
      ⟨some "video/mp4", "https://res.cloudinary.com/demo/video/upload/q_50/dog.mp4"⟩,
      ⟨some "video/webm", "https://res.cloudinary.com/demo/video/upload/dog.webm"⟩] := by
  decide +kernel

end Source

end VideoDelivery
