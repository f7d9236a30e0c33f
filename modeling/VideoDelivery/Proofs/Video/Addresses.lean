import VideoDelivery.Proofs.Video.ConfigReading

/-!
# The URLs of a rendering

Every URL of a rendered video is put together from the merged configuration and the children alone:
scheme, account and type, then one segment for each step that has tokens, then the file. The steps
come in a fixed order: the flat parameters as one step, the steps of a chain-valued
`transformation`, the descriptors, and last the step of its own that the format has.

* `Config.filterMap_sharedChain` — the shared steps give the segments of the flat parameters, the
  explicit steps and the descriptors in turn, whether or not there are flat parameters.
* `Props.render_addresses` — **what a rendering plays**: the configured file without a request,
  and the file in each requested format otherwise.
-/

namespace VideoDelivery

/-- A URL from its parts: every segment is followed by a slash. -/
def deliveryUrl (protocol : Protocol) (cloud : String) (kind : ResourceType)
    (segments : List String) (file : String) : String :=
  protocol.scheme ++ "://" ++ "res.cloudinary.com" ++ "/" ++ cloud ++ "/" ++ kind.token ++
    "/upload/" ++ String.join (segments.map (· ++ "/")) ++ file

/-- What follows the identifier in the file of a configured format, if that is not empty. -/
def configuredExtension : Option String → String
  | some format => if format = "" then "" else "." ++ format
  | none => ""

/-! ## Segments -/

theorem Step.segment?_of_isEmpty {s : Step} (h : s.isEmpty = true) : s.segment? = none := by
  have hentries : s.entries = [] := List.isEmpty_iff.mp h
  have htokens : s.tokens = [] := by rw [tokens, hentries, List.filterMap_nil]
  simp [segment?, tokenTexts, htokens]

theorem Chain.filterMap_withHead (head : Step) (chain : List Step) :
    (withHead head chain).filterMap Step.segment? = (head :: chain).filterMap Step.segment? := by
  unfold withHead
  split
  next hempty =>
    -- a step without parameters is left out, and it has no segment to begin with
    rw [List.filterMap_cons, Step.segment?_of_isEmpty hempty]
  next => rfl

/-- The segments that all formats share: those of the flat parameters, of the explicit steps and of
the descriptors. -/
def Config.segments (flat : Step) (m : PropertyMap) (descriptors : List Step) : List String :=
  (flat :: (Chain.explicit (m.get? "transformation") ++ descriptors)).filterMap Step.segment?

/-- The segment of the step that a format has of its own, if there is one. -/
def Overrides.ownSegment (m : PropertyMap) (f : Format) : List String :=
  ((own (m.get? "source_transformation") f).bind Step.segment?).toList

section

variable {m : PropertyMap} {descriptors : List Step} {c : Config}

theorem Config.filterMap_sharedChain (h : c.ReadFrom m descriptors) :
    c.sharedChain.filterMap Step.segment? = segments c.params m descriptors := by
  rw [sharedChain, Chain.filterMap_withHead, h.chain]
  rfl

theorem Source.filterMap_chainFor (h : c.ReadFrom m descriptors) (f : Format) :
    (chainFor c.overrides c.sharedChain f).filterMap Step.segment? =
      Config.segments c.params m descriptors ++ Overrides.ownSegment m f := by
  rw [chainFor, h.overrides f, Overrides.ownSegment]
  cases Overrides.own (m.get? "source_transformation") f with
  | none => exact (Config.filterMap_sharedChain h).trans (List.append_nil _).symm
  | some step =>
    -- the step comes after the shared ones, and has a segment only if it has tokens
    show (c.sharedChain ++ [step]).filterMap Step.segment? = _
    rw [List.filterMap_append, Config.filterMap_sharedChain h, Option.bind_some]
    cases hstep : step.segment? <;> simp [hstep]

/-! ## Files -/

theorem Asset.fileName_eq (a : Asset) :
    a.fileName = a.publicId ++ configuredExtension a.format := by
  unfold fileName configuredExtension
  cases a.format with
  | none => exact String.append_empty.symm
  | some format =>
    by_cases h : format = ""
    · simp [h]
    · simp [h, String.append_assoc]

theorem Asset.fileName_withFormat (a : Asset) (f : Format) :
    (a.withFormat f.extension).fileName = a.publicId ++ ("." ++ f.token) := by
  have hextension : f.extension ≠ "" := by cases f <;> decide
  rw [fileName_eq, withFormat, configuredExtension, if_neg hextension]
  rfl

/-! ## Addresses -/

theorem Asset.address_eq (a : Asset) (chain : List Step) (protocol : Protocol) :
    a.address chain protocol = deliveryUrl protocol a.cloudName a.resourceType
      (chain.filterMap Step.segment?) a.fileName := rfl

end

/-- **What a rendering plays.** The snapshot of a rendering is read from the merged configuration
and the descriptors of the children; together with these it gives every URL.

Without a request the element plays the configured file under the shared segments. A requested
format is played under the shared segments and the one of its own, with its token for an extension
in place of the configured one; one format is played from the element itself, and of several each
has a source of its own, labelled with its MIME type, in the order of the request. -/
theorem Props.render_addresses {p : Props} {layers : List PropertyMap} {x : Rendered}
    (h : p.render (.ofLayers layers) = .ok x) :
    let m := p.mergedConfig (.ofLayers layers)
    let c := x.snapshot.config
    let shared := Config.segments c.params m (Child.allSteps p.children)
    let url := deliveryUrl (.ofSecure c.secure) c.asset.cloudName c.asset.resourceType
    let inFormat := fun f : Format =>
      url (shared ++ Overrides.ownSegment m f) (c.asset.publicId ++ ("." ++ f.token))
    c.ReadFrom m (Child.allSteps p.children) ∧
      x.element.content =
        match c.formats with
        | [] => .single (url shared (c.asset.publicId ++ configuredExtension c.asset.format))
        | [f] => .single (inFormat f)
        | fs => .multi (fs.map fun f => ⟨some f.mimeType, inFormat f⟩) := by
  intro m c shared url inFormat
  have hread : c.ReadFrom m (Child.allSteps p.children) := readFrom_of_render h
  refine ⟨hread, ?_⟩
  -- both kinds of address, with their segments and their file spelled out
  have hplain : c.asset.address c.sharedChain (.ofSecure c.secure) =
      url shared (c.asset.publicId ++ configuredExtension c.asset.format) := by
    rw [Asset.address_eq, Config.filterMap_sharedChain hread, Asset.fileName_eq]
  have hlabelled : Source.labelled c.asset c.sharedChain c.overrides (.ofSecure c.secure) =
      fun f => ⟨some f.mimeType, inFormat f⟩ := by
    funext f
    rw [Source.labelled, Asset.address_eq, Source.filterMap_chainFor hread,
      Asset.fileName_withFormat]
    rfl
  -- the content is one of them, or the labelled ones in the order of the request
  obtain ⟨-, hcontent⟩ := compiled_of_render h
  have hcontent := Rendered.content_eq_ok.mp hcontent
  rw [hplain, hlabelled] at hcontent
  exact hcontent

/-- A video with a step of every origin, in two formats. -/
def Props.everyOrigin : Props where
  children := [.descriptor (Step.empty.insert "height" (.ofNat 10)) []]
  attributes := .ofList [("publicId", .str "dog"), ("width", .ofNat 100),
    ("sourceTypes", .arr [.str "webm", .str "MP4"]),
    ("sourceTransformation", .obj [("mp4", .obj [("quality", .ofNat 50)])]),
    ("transformation", .arr [.obj [("angle", .ofNat 20)], .obj [("color", .null)]])]

/-- The four origins of steps line up, and the step without tokens leaves no trace. -/
theorem Props.render_everyOrigin :
    ∃ x, everyOrigin.render (.ofLayers [.ofList [("cloudName", .str "demo")]]) = .ok x ∧
      x.element.content = .multi [
        ⟨some "video/webm", "http://res.cloudinary.com/demo/video/upload/w_100/a_20/h_10/dog.webm"⟩,
        ⟨some "video/mp4",
          "http://res.cloudinary.com/demo/video/upload/w_100/a_20/h_10/q_50/dog.mp4"⟩] := by
  have hrun : (do
      let x ← everyOrigin.render (.ofLayers [.ofList [("cloudName", .str "demo")]])
      let c := x.snapshot.config
      return (c.asset, c.secure, c.formats, c.params.segment?)) =
      (.ok (⟨"demo", "dog", .video, none⟩, false, [.webm, .mp4], some "w_100") :
        Except Error _) := by
    decide +kernel
  obtain ⟨x, hx, hrun⟩ := bind_eq_ok.mp hrun
  have hparts := Except.ok.inj hrun
  simp only [Prod.mk.injEq] at hparts
  obtain ⟨hasset, hsecure, hformats, hflat⟩ := hparts
  obtain ⟨-, hcontent⟩ := Props.render_addresses hx
  refine ⟨x, hx, ?_⟩
  rw [hformats, hasset, hsecure] at hcontent
  rw [hcontent, Config.segments, List.filterMap_cons, hflat]
  decide +kernel

end VideoDelivery
