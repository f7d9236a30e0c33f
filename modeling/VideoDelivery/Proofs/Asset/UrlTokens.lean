import VideoDelivery.Proofs.Transformation.CodeOrder
import VideoDelivery.Proofs.Video.Failures

/-!
# A URL tells its tokens

The segments of a URL are its steps' tokens joined by commas, and each segment is ended by a slash.
Where no token has a comma or a slash in its text, both can be undone: splitting at the slashes
gives the segments back, and splitting these at the commas gives back the tokens of each step. Steps
without tokens have left nothing to be found.

* `Step.parts_segment` — the tokens of a step are read back from its segment.
* `Chain.parts_segmentPath` — the segments of a chain are read back from its path.
* `Chain.readTokens_segmentPath` — so are the tokens of all its steps.
* `Asset.url_tells_tokens` — **chains have one URL exactly when they have the same tokens**.
-/

namespace VideoDelivery

/-! ## Segments -/

/-- No token of the step has a comma or a slash in its text. -/
def Step.Separable (s : Step) : Prop :=
  ∀ text ∈ s.tokenTexts, ',' ∉ text.toList ∧ '/' ∉ text.toList

namespace Step

instance (s : Step) : Decidable s.Separable :=
  inferInstanceAs (Decidable (∀ text ∈ s.tokenTexts, ',' ∉ text.toList ∧ '/' ∉ text.toList))

variable {s : Step} {segment : String}

theorem slash_notMem_segment (hsep : s.Separable) (h : s.segment? = some segment) :
    '/' ∉ segment.toList := by
  rw [(segment?_eq_some_iff.mp h).2]
  exact Text.notMem_intercalate (by decide) fun text htext => (hsep text htext).2

theorem parts_segment (hcommas : ∀ text ∈ s.tokenTexts, ',' ∉ text.toList)
    (h : s.segment? = some segment) : Text.parts ',' segment = s.tokenTexts := by
  obtain ⟨htokens, rfl⟩ := segment?_eq_some_iff.mp h
  have hne : s.tokenTexts ≠ [] := fun hnil => htokens (tokenTexts_eq_nil_iff.mp hnil)
  exact Text.parts_intercalate hne hcommas

end Step

/-! ## Chains -/

namespace Chain

/-- The steps of a chain that have tokens. -/
def withTokens (chain : List Step) : List Step := chain.filter fun s => s.tokens ≠ []

/-- The texts of the tokens of each step, for those steps that have some. -/
def tokenLists (chain : List Step) : List (List String) :=
  (withTokens chain).map Step.tokenTexts

/-- The texts of the tokens in a path of segments. -/
def readTokens (path : String) : List (List String) :=
  (Text.parts '/' path).dropLast.map (Text.parts ',')

/-- The segments of a chain are made from the tokens of its steps. -/
theorem filterMap_segment? (chain : List Step) :
    chain.filterMap Step.segment? = (tokenLists chain).map (",".intercalate ·) := by
  induction chain with
  | nil => rfl
  | cons s rest ih =>
    rw [List.filterMap_cons, ih]
    by_cases h : s.tokens = []
    · -- a step without tokens is on neither side
      simp [Step.segment?_eq_none_iff.mpr h, tokenLists, withTokens, h]
    · have hsegment := Step.segment?_eq_some_iff.mpr ⟨h, rfl⟩
      simp [hsegment, tokenLists, withTokens, h]

section

variable {chain : List Step}

theorem parts_segmentPath (h : ∀ s ∈ chain, s.Separable) :
    Text.parts '/' (segmentPath chain) = chain.filterMap Step.segment? ++ [""] := by
  refine Text.parts_ended fun segment hsegment => ?_
  obtain ⟨s, hs, hsome⟩ := List.mem_filterMap.mp hsegment
  exact Step.slash_notMem_segment (h s hs) hsome

theorem readTokens_segmentPath (h : ∀ s ∈ chain, s.Separable) :
    readTokens (segmentPath chain) = tokenLists chain := by
  -- each list of texts is joined to a segment and split again
  have hread : ∀ texts ∈ tokenLists chain,
      Text.parts ',' (",".intercalate texts) = id texts := by
    intro texts htexts
    obtain ⟨s, hs, rfl⟩ := List.mem_map.mp htexts
    obtain ⟨hmem, htokens⟩ := List.mem_filter.mp hs
    exact Step.parts_segment (fun text htext => (h s hmem text htext).1)
      (Step.segment?_eq_some_iff.mpr ⟨of_decide_eq_true htokens, rfl⟩)
  calc readTokens (segmentPath chain)
      = ((tokenLists chain).map (",".intercalate ·)).map (Text.parts ',') := by
        -- behind the last slash there is nothing
        rw [readTokens, parts_segmentPath h, List.dropLast_concat, filterMap_segment?]
    _ = (tokenLists chain).map id := by
        rw [List.map_map]
        exact List.map_congr_left hread
    _ = tokenLists chain := List.map_id _

end

theorem segmentPath_of_tokenLists {xs ys : List Step} (h : tokenLists xs = tokenLists ys) :
    segmentPath xs = segmentPath ys := by
  rw [segmentPath, segmentPath, filterMap_segment?, filterMap_segment?, h]

theorem segmentPath_eq_iff {xs ys : List Step} (hxs : ∀ s ∈ xs, s.Separable)
    (hys : ∀ s ∈ ys, s.Separable) :
    segmentPath xs = segmentPath ys ↔ tokenLists xs = tokenLists ys := by
  constructor
  · intro h
    rw [← readTokens_segmentPath hxs, ← readTokens_segmentPath hys, h]
  · exact segmentPath_of_tokenLists

end Chain

/-! ## URLs -/

namespace Asset

open Chain (withTokens tokenLists readTokens)

theorem address_eq_iff (a : Asset) (protocol : Protocol) {xs ys : List Step} :
    a.address xs protocol = a.address ys protocol ↔ segmentPath xs = segmentPath ys := by
  rw [address, address, String.append_left_inj, String.append_right_inj]

/-- **A URL tells its tokens.** For an account and an identifier that are not blank, and chains whose
tokens have neither commas nor slashes in their texts, the path between the upload folder and the
file gives back the tokens of each step. So two chains have one URL exactly when they have the same
lists of tokens, leaving out the steps without any; and such steps may be inserted into any chain,
or taken out, anywhere. -/
theorem url_tells_tokens {a : Asset} (hcloud : Text.allBlank a.cloudName = false)
    (hid : Text.allBlank a.publicId = false) (protocol : Protocol) {xs ys : List Step}
    (hxs : ∀ s ∈ xs, s.Separable) (hys : ∀ s ∈ ys, s.Separable) :
    (∃ path, a.url xs protocol = .ok (a.uploadPath protocol ++ path ++ a.fileName) ∧
      readTokens path = tokenLists xs) ∧
    (a.url xs protocol = a.url ys protocol ↔ tokenLists xs = tokenLists ys) ∧
    ∀ chain chain' : List Step, withTokens chain = withTokens chain' →
      a.url chain protocol = a.url chain' protocol := by
  have hurl : ∀ chain, a.url chain protocol = .ok (a.address chain protocol) := fun chain =>
    url_eq_ok.mpr ⟨addressFault?_eq_none hcloud hid, rfl⟩
  refine ⟨⟨segmentPath xs, hurl xs, Chain.readTokens_segmentPath hxs⟩, ?_, ?_⟩
  · rw [hurl, hurl, Except.ok.injEq, address_eq_iff, Chain.segmentPath_eq_iff hxs hys]
  · intro chain chain' h
    have hlists : tokenLists chain = tokenLists chain' := by rw [tokenLists, h, tokenLists]
    rw [hurl, hurl, Except.ok.injEq, address_eq_iff]
    exact Chain.segmentPath_of_tokenLists hlists

end Asset

/-- A step of two tokens, the second of them raw. -/
def Step.scaled : Step :=
  (empty.insert "rawTransformation" (.str "e_sepia")).insert "width" (.ofNat 100)

/-- A step of one token. -/
def Step.turned : Step := empty.insert "angle" (.arr [.ofNat 10, .null, .str "vflip"])

/-- A step that names a parameter and has no token. -/
def Step.idle : Step := empty.insert "color" .null

/-- Where a step without tokens stands is not seen, and the order of the others is. -/
theorem Asset.url_tells_tokens_idle :
    (⟨"demo", "dog", .video, none⟩ : Asset).url [.scaled, .idle, .turned] .https =
      (⟨"demo", "dog", .video, none⟩ : Asset).url [.idle, .scaled, .turned] .https ∧
    (⟨"demo", "dog", .video, none⟩ : Asset).url [.scaled, .idle, .turned] .https ≠
      (⟨"demo", "dog", .video, none⟩ : Asset).url [.turned, .scaled] .https := by
  have hcloud : Text.allBlank "demo" = false := by decide
  have hid : Text.allBlank "dog" = false := by decide
  have hseparable : ∀ s ∈ [Step.scaled, .idle, .turned], s.Separable := by decide +kernel
  constructor
  · refine (url_tells_tokens hcloud hid .https hseparable ?_).2.1.mpr ?_
    · decide +kernel
    · decide +kernel
  · refine mt (url_tells_tokens hcloud hid .https hseparable ?_).2.1.mp ?_
    · decide +kernel
    · decide +kernel

end VideoDelivery
