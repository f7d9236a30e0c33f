import VideoDelivery.Proofs.Identity.Delimited
import VideoDelivery.Proofs.Video.Agreement

/-!
# Identity bytes tell configurations apart

Every part of a configuration splits, from the texts of an asset to the seven parts of a poster
asset, and so do the seven parts of the whole in turn.

* `config_splits` — **the identity bytes of two configurations are equal only if they agree**,
  whether all their sizes are below `2 ^ 32` or the configurations are the same.
* `config_congr` — configurations that agree have the same identity bytes.
* `config_eq_iff` — both directions.
-/

namespace VideoDelivery.Identity

/-! ## Texts that may be absent, and tokens -/

theorem optional_splits_eq {α : Type} {part : α → List UInt8} {x y : Option α}
    (h : ∀ a ∈ x, ∀ b ∈ y, Splits part Eq a b) : Splits (optional part) Eq x y := by
  intro r s heq
  obtain ⟨hrel, hrest⟩ := optional_splits h heq
  exact ⟨eq_of_rel_eq hrel, hrest⟩

theorem optionalText_splits {x y : Option String}
    (h : Comparable OptionalTextWithinLimits (· == ·) x y) : Splits (optional text) Eq x y :=
  optional_splits_eq fun a ha b hb => text_splits (sizesTell_text (comparable_option h a ha b hb))

theorem resourceType_splits (a b : ResourceType) :
    Splits (fun t : ResourceType => text t.token) Eq a b := by
  intro r s heq
  have hshort : ∀ t : ResourceType, t.token.utf8ByteSize < 2 ^ 32 := by
    intro t
    cases t <;> decide
  obtain ⟨htoken, hrest⟩ := text_splits (sizesTell_of_lt (hshort a) (hshort b)) heq
  refine ⟨?_, hrest⟩
  cases a <;> cases b <;> first | rfl | exact absurd htoken (by decide)

theorem format_splits (f g : Format) : Splits (fun f : Format => text f.token) Eq f g := by
  intro r s heq
  have hshort : ∀ f : Format, f.token.utf8ByteSize < 2 ^ 32 := by
    intro f
    cases f <;> decide
  obtain ⟨htoken, hrest⟩ := text_splits (sizesTell_of_lt (hshort f) (hshort g)) heq
  exact ⟨Format.token_injective htoken, hrest⟩

/-! ## Assets, steps and overrides -/

theorem asset_splits {a b : Asset}
    (hcloud : Comparable TextWithinLimits (· == ·) a.cloudName b.cloudName)
    (hid : Comparable TextWithinLimits (· == ·) a.publicId b.publicId)
    (hformat : Comparable OptionalTextWithinLimits (· == ·) a.format b.format) :
    Splits asset Eq a b := by
  intro r s heq
  simp only [asset, List.append_assoc] at heq
  obtain ⟨hcloud, heq⟩ := text_splits (sizesTell_text hcloud) heq
  obtain ⟨hid, heq⟩ := text_splits (sizesTell_text hid) heq
  obtain ⟨htype, heq⟩ := resourceType_splits _ _ heq
  obtain ⟨hformat, heq⟩ := optionalText_splits hformat heq
  exact ⟨Asset.ext hcloud hid htype hformat, heq⟩

theorem step_splits {a b : Step} (h : Comparable Step.WithinLimits (· == ·) a b) :
    Splits step Step.Agree a b := by
  intro r s heq
  obtain ⟨htell, hfields⟩ := Step.comparable h
  rw [step, step, List.append_assoc, List.append_assoc] at heq
  obtain ⟨hsize, heq⟩ := size_splits htell heq
  exact jsonFields_split hfields hsize heq

theorem step_congr {a b : Step} (h : a.Agree b) : step a = step b := by
  obtain ⟨hsize, hbytes⟩ := jsonFields_congr h
  rw [step, step, show a.size = b.size from hsize, hbytes]

theorem chain_splits {xs ys : List Step}
    (h : Comparable (ListWithinLimits Step.WithinLimits) (· == ·) xs ys) :
    Splits (list step) (List.Forall₂ Step.Agree) xs ys := by
  obtain ⟨htell, hpairs⟩ := comparable_list h
  exact list_splits htell fun p hp => step_splits (hpairs p hp)

theorem chain_congr {xs ys : List Step} (h : List.Forall₂ Step.Agree xs ys) :
    list step xs = list step ys :=
  list_congr (fun _ _ hstep => step_congr hstep) h

theorem formats_splits {fs gs : List Format}
    (h : Comparable (ListWithinLimits fun _ => True) (· == ·) fs gs) :
    Splits (list fun f : Format => text f.token) Eq fs gs := by
  intro r s heq
  obtain ⟨htell, -⟩ := comparable_list h
  obtain ⟨hformats, heq⟩ := list_splits htell (fun p _ => format_splits p.1 p.2) heq
  exact ⟨List.forall₂_eq_eq_eq ▸ hformats, heq⟩

/-- One entry of overrides. -/
def overridesEntry (e : Format × Step) : List UInt8 := text e.1.token ++ step e.2

theorem overridesEntry_splits {e e' : Format × Step}
    (h : Comparable Step.WithinLimits (· == ·) e.2 e'.2) :
    Splits overridesEntry (Overrides.EntryRel Step.Agree) e e' := by
  intro r s heq
  rw [overridesEntry, overridesEntry, List.append_assoc, List.append_assoc] at heq
  obtain ⟨hformat, heq⟩ := format_splits _ _ heq
  obtain ⟨hagree, heq⟩ := step_splits h heq
  exact ⟨⟨hformat, hagree⟩, heq⟩

theorem overridesEntry_congr {e e' : Format × Step} (h : Overrides.EntryRel Step.Agree e e') :
    overridesEntry e = overridesEntry e' := by
  rw [overridesEntry, overridesEntry, h.1, step_congr h.2]

theorem overrides_splits {a b : Overrides} (h : Comparable Overrides.WithinLimits (· == ·) a b) :
    Splits (fun o : Overrides => list overridesEntry o.entries) Overrides.Agree a b := by
  intro r s heq
  obtain ⟨htell, hpairs⟩ := Overrides.comparable h
  obtain ⟨hentries, heq⟩ :=
    list_splits htell (fun p hp => overridesEntry_splits (hpairs p hp)) heq
  exact ⟨Overrides.forall₂_entries_iff.mp hentries, heq⟩

theorem overrides_congr {a b : Overrides} (h : a.Agree b) :
    list overridesEntry a.entries = list overridesEntry b.entries :=
  list_congr (fun _ _ he => overridesEntry_congr he) (Overrides.forall₂_entries_iff.mpr h)

/-! ## Posters -/

/-- The parts of a poster asset in turn. -/
def posterAsset (p : PosterAsset) : List UInt8 :=
  optional text p.cloudName ++ text p.publicId ++
    optional (fun t : ResourceType => text t.token) p.resourceType ++ optional text p.format ++
    optional flag p.secure ++ step p.params ++ list step p.chain

theorem posterAsset_splits {p q : PosterAsset}
    (h : Comparable PosterAsset.WithinLimits (· == ·) p q) :
    Splits posterAsset PosterAsset.Agree p q := by
  intro r s heq
  -- what each part inherits
  have hcloud : Comparable OptionalTextWithinLimits (· == ·) p.cloudName q.cloudName :=
    h.map (·.cloudName) (·.cloudName) fun hsame => beq_of_eq (PosterAsset.same_iff.mp hsame).1
  have hid : Comparable TextWithinLimits (· == ·) p.publicId q.publicId :=
    h.map (·.publicId) (·.publicId) fun hsame => beq_of_eq (PosterAsset.same_iff.mp hsame).2.1
  have hformat : Comparable OptionalTextWithinLimits (· == ·) p.format q.format :=
    h.map (·.format) (·.format) fun hsame => beq_of_eq (PosterAsset.same_iff.mp hsame).2.2.2.1
  have hparams : Comparable Step.WithinLimits (· == ·) p.params q.params :=
    h.map (·.params) (·.params) fun hsame => (PosterAsset.same_iff.mp hsame).2.2.2.2.2.1
  have hchain : Comparable (ListWithinLimits Step.WithinLimits) (· == ·) p.chain q.chain :=
    h.map (·.chain) (·.chain) fun hsame => (PosterAsset.same_iff.mp hsame).2.2.2.2.2.2
  simp only [posterAsset, List.append_assoc] at heq
  obtain ⟨hcloud, heq⟩ := optionalText_splits hcloud heq
  obtain ⟨hid, heq⟩ := text_splits (sizesTell_text hid) heq
  obtain ⟨htype, heq⟩ := optional_splits_eq (fun a _ b _ => resourceType_splits a b) heq
  obtain ⟨hformat, heq⟩ := optionalText_splits hformat heq
  obtain ⟨hsecure, heq⟩ := optional_splits_eq (fun a _ b _ => flag_splits a b) heq
  obtain ⟨hparams, heq⟩ := step_splits hparams heq
  obtain ⟨hchain, heq⟩ := chain_splits hchain heq
  exact ⟨⟨hcloud, hid, htype, hformat, hsecure, hparams, hchain⟩, heq⟩

theorem posterAsset_congr {p q : PosterAsset} (h : p.Agree q) : posterAsset p = posterAsset q := by
  rw [posterAsset, posterAsset, h.cloudName, h.publicId, h.resourceType, h.format, h.secure,
    step_congr h.params, chain_congr h.chain]

theorem poster_splits {x y : Option Poster}
    (h : Comparable (OptionWithinLimits Poster.WithinLimits) (· == ·) x y) :
    Splits poster (Option.Rel Poster.Agree) x y := by
  intro r s heq
  have hform := comparable_option h
  -- posters of two forms differ in the first byte
  rcases x with _ | _ | _ | _ <;> rcases y with _ | _ | _ | _ <;>
    try exact absurd (List.head_eq_of_cons_eq heq) (by decide)
  all_goals replace heq := List.tail_eq_of_cons_eq heq
  case none.none => exact ⟨.none, heq⟩
  case some.url.some.url u u' =>
    have hurl : Comparable TextWithinLimits (· == ·) u u' := (hform _ rfl _ rfl).map id id id
    obtain ⟨hu, heq⟩ := text_splits (sizesTell_text hurl) heq
    exact ⟨.some hu, heq⟩
  case some.frame.some.frame a b =>
    obtain ⟨hab, heq⟩ := optional_splits_eq (fun a _ b _ => flag_splits a b) heq
    exact ⟨.some hab, heq⟩
  case some.asset.some.asset p q =>
    have hasset : Comparable PosterAsset.WithinLimits (· == ·) p q :=
      (hform _ rfl _ rfl).map id id id
    obtain ⟨hagree, heq⟩ := posterAsset_splits hasset heq
    exact ⟨.some hagree, heq⟩

theorem poster_congr {x y : Option Poster} (h : Option.Rel Poster.Agree x y) :
    poster x = poster y := by
  cases h with
  | none => rfl
  | @some p q hagree =>
    cases p <;> cases q <;> try exact hagree.elim
    case url.url => rw [show _ = _ from hagree]
    case frame.frame => rw [show _ = _ from hagree]
    case asset.asset p q => exact congrArg (3 :: ·) (posterAsset_congr hagree)

/-! ## Configurations -/

/-- **The identity bytes of a configuration split.** -/
theorem config_splits {c d : Config} (h : Comparable Config.WithinLimits (· == ·) c d) :
    Splits config Config.Agree c d := by
  intro r s heq
  -- what each part inherits
  have hcloud : Comparable TextWithinLimits (· == ·) c.asset.cloudName d.asset.cloudName :=
    h.map (·.cloudName) (·.cloudName) fun hsame =>
      beq_of_eq (congrArg Asset.cloudName (Config.same_iff.mp hsame).1)
  have hid : Comparable TextWithinLimits (· == ·) c.asset.publicId d.asset.publicId :=
    h.map (·.publicId) (·.publicId) fun hsame =>
      beq_of_eq (congrArg Asset.publicId (Config.same_iff.mp hsame).1)
  have hformat : Comparable OptionalTextWithinLimits (· == ·) c.asset.format d.asset.format :=
    h.map (·.format) (·.format) fun hsame =>
      beq_of_eq (congrArg Asset.format (Config.same_iff.mp hsame).1)
  have hformats : Comparable (ListWithinLimits fun _ => True) (· == ·) c.formats d.formats :=
    h.map (·.formats) (·.formats) fun hsame => beq_of_eq (Config.same_iff.mp hsame).2.2.1
  have hparams : Comparable Step.WithinLimits (· == ·) c.params d.params :=
    h.map (·.params) (·.params) fun hsame => (Config.same_iff.mp hsame).2.2.2.1
  have hchain : Comparable (ListWithinLimits Step.WithinLimits) (· == ·) c.chain d.chain :=
    h.map (·.chain) (·.chain) fun hsame => (Config.same_iff.mp hsame).2.2.2.2.1
  have hoverrides : Comparable Overrides.WithinLimits (· == ·) c.overrides d.overrides :=
    h.map (·.overrides) (·.overrides) fun hsame => (Config.same_iff.mp hsame).2.2.2.2.2.1
  have hposter : Comparable (OptionWithinLimits Poster.WithinLimits) (· == ·) c.poster d.poster :=
    h.map (·.poster) (·.poster) fun hsame => (Config.same_iff.mp hsame).2.2.2.2.2.2
  -- the parts in turn
  simp only [config, List.append_assoc] at heq
  obtain ⟨hasset, heq⟩ := asset_splits hcloud hid hformat heq
  obtain ⟨hsecure, heq⟩ := flag_splits _ _ heq
  obtain ⟨hformats, heq⟩ := formats_splits hformats heq
  obtain ⟨hparams, heq⟩ := step_splits hparams heq
  obtain ⟨hchain, heq⟩ := chain_splits hchain heq
  obtain ⟨hoverrides, heq⟩ := overrides_splits hoverrides heq
  obtain ⟨hposter, heq⟩ := poster_splits hposter heq
  exact ⟨⟨hasset, hsecure, hformats, hparams, hchain, hoverrides, hposter⟩, heq⟩

theorem config_congr {c d : Config} (h : c.Agree d) : config c = config d := by
  have hoverrides := overrides_congr h.overrides
  unfold overridesEntry at hoverrides
  rw [config, config, h.asset, h.secure, h.formats, step_congr h.params, chain_congr h.chain,
    hoverrides, poster_congr h.poster]

/-- **Identity bytes are equal exactly when configurations agree.** -/
theorem config_eq_iff {c d : Config} (h : Comparable Config.WithinLimits (· == ·) c d) :
    config c = config d ↔ c.Agree d :=
  (config_splits h).eq_iff config_congr

end VideoDelivery.Identity
