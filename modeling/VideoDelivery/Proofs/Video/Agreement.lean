import VideoDelivery.Proofs.Json.Agreement
import VideoDelivery.Proofs.Property.Spellings
import VideoDelivery.Video.Config
import Mathlib.Data.List.Forall2
import Mathlib.Data.List.Nodup

/-!
# Configurations that agree

Agreement of values, lifted to everything a typed configuration is made of: what is not a value has
to be equal, and the values of parameters have to agree. Steps agree field by field, chains step by
step in order, overrides format by format.

* `Config.Agree` — the relation; `Config.eq_of_agree` — configurations that are the same and agree
  are one configuration.
* `Config.WithinLimits` — every string, list and map of a configuration is shorter than `2 ^ 32`.
* `Overrides.forall₂_entries_iff` — overrides are related format by format exactly when their
  entries are related one by one.
-/

namespace VideoDelivery

attribute [ext] Asset PosterAsset Config

/-! ## Lists and options -/

/-- A list that can stand after its size, of things within limits. -/
def ListWithinLimits {α : Type} (limits : α → Prop) (xs : List α) : Prop :=
  xs.length < 2 ^ 32 ∧ ∀ a ∈ xs, limits a

/-- Something within limits, if there is anything. -/
def OptionWithinLimits {α : Type} (limits : α → Prop) (x : Option α) : Prop := ∀ a ∈ x, limits a

section

variable {α : Type} [BEq α] {limits : α → Prop}

theorem forall₂_of_beq : ∀ {xs ys : List α}, (xs == ys) = true →
    List.Forall₂ (fun a b => (a == b) = true) xs ys
  | [], [], _ => .nil
  | _ :: _, _ :: _, h =>
    .cons (Bool.and_eq_true_iff.mp h).1 (forall₂_of_beq (Bool.and_eq_true_iff.mp h).2)

theorem rel_of_beq : ∀ {x y : Option α}, (x == y) = true →
    Option.Rel (fun a b => (a == b) = true) x y
  | none, none, _ => .none
  | some _, some _, h => .some h

theorem comparable_list {xs ys : List α}
    (h : Comparable (ListWithinLimits limits) (· == ·) xs ys) :
    SizesTell xs.length ys.length ∧ ∀ p ∈ xs.zip ys, Comparable limits (· == ·) p.1 p.2 := by
  rcases h with ⟨⟨hxs, hleft⟩, ⟨hys, hright⟩⟩ | hsame
  · refine ⟨sizesTell_of_lt hxs hys, fun p hp => .inl ?_⟩
    obtain ⟨hx, hy⟩ := List.of_mem_zip hp
    exact ⟨hleft _ hx, hright _ hy⟩
  · have hpairs := forall₂_of_beq hsame
    exact ⟨sizesTell_of_eq hpairs.length_eq, fun p hp => .inr (List.forall₂_zip hpairs hp)⟩

theorem comparable_option {x y : Option α}
    (h : Comparable (OptionWithinLimits limits) (· == ·) x y) :
    ∀ a ∈ x, ∀ b ∈ y, Comparable limits (· == ·) a b := by
  rintro a rfl b rfl
  exact h.map (· a rfl) (· b rfl) id

end

theorem forall₂_eq_of {α : Type} {R S : α → α → Prop} (h : ∀ {a b}, S a b → R a b → a = b)
    {xs ys : List α} (hS : List.Forall₂ S xs ys) (hR : List.Forall₂ R xs ys) : xs = ys := by
  induction hS with
  | nil => rfl
  | cons hab _ ih =>
    cases hR with
    | cons hab' hrest => rw [h hab hab', ih hrest]

theorem rel_eq_of {α : Type} {R S : α → α → Prop} (h : ∀ {a b}, S a b → R a b → a = b)
    {x y : Option α} (hS : Option.Rel S x y) (hR : Option.Rel R x y) : x = y := by
  cases hS with
  | none => rfl
  | some hab =>
    cases hR with
    | some hab' => rw [h hab hab']

/-! ## Steps -/

namespace Step

/-- The parameters are the same, and their values agree. -/
def Agree (a b : Step) : Prop := Json.AgreeFields a.entries b.entries

def WithinLimits (s : Step) : Prop := s.size < 2 ^ 32 ∧ Json.WithinLimitsFields s.entries

theorem eq_of_agree {a b : Step} (hsame : (a == b) = true) (hagree : a.Agree b) : a = b :=
  ext_params (PropertyMap.ext_entries (Json.sameFields_eq_of_agree hsame hagree))

theorem comparable {a b : Step} (h : Comparable WithinLimits (· == ·) a b) :
    SizesTell a.size b.size ∧
      Comparable Json.WithinLimitsFields Json.sameFields a.entries b.entries := by
  refine ⟨?_, h.map And.right And.right id⟩
  rcases h with ⟨ha, hb⟩ | hsame
  · exact sizesTell_of_lt ha.1 hb.1
  · exact sizesTell_of_eq (Json.length_eq_of_sameFields hsame)

end Step

/-! ## Overrides -/

namespace Overrides

/-- The entries of some formats. -/
def entriesOf (o : Overrides) (formats : List Format) : List (Format × Step) :=
  formats.filterMap fun f => (o.get? f).map fun step => (f, step)

theorem mem_of_mem_entriesOf {o : Overrides} {formats : List Format} {f : Format}
    (h : f ∈ (o.entriesOf formats).map Prod.fst) : f ∈ formats := by
  obtain ⟨e, he, rfl⟩ := List.mem_map.mp h
  obtain ⟨f, hf, he⟩ := List.mem_filterMap.mp he
  obtain ⟨step, -, rfl⟩ := Option.map_eq_some_iff.mp he
  exact hf

theorem entriesOf_cons_none {o : Overrides} {f : Format} {rest : List Format}
    (h : o.get? f = none) : o.entriesOf (f :: rest) = o.entriesOf rest := by
  simp [entriesOf, h]

theorem entriesOf_cons_some {o : Overrides} {f : Format} {rest : List Format} {step : Step}
    (h : o.get? f = some step) : o.entriesOf (f :: rest) = (f, step) :: o.entriesOf rest := by
  simp [entriesOf, h]

/-- Entries of one format with related steps. -/
def EntryRel (R : Step → Step → Prop) (e e' : Format × Step) : Prop := e.1 = e'.1 ∧ R e.2 e'.2

theorem formats_eq_of_forall₂ {R : Step → Step → Prop} {es es' : List (Format × Step)}
    (h : List.Forall₂ (EntryRel R) es es') : es.map Prod.fst = es'.map Prod.fst := by
  induction h with
  | nil => rfl
  | cons he _ ih => rw [List.map_cons, List.map_cons, he.1, ih]

/-- Entries stand one by one in the order of formats, each format once; so related lists of entries
have their formats at the same places. -/
theorem forall₂_entriesOf_iff {R : Step → Step → Prop} {a b : Overrides} :
    ∀ {formats : List Format}, formats.Nodup →
      (List.Forall₂ (EntryRel R) (a.entriesOf formats) (b.entriesOf formats) ↔
        ∀ f ∈ formats, Option.Rel R (a.get? f) (b.get? f))
  | [], _ => by simp [entriesOf]
  | f :: rest, hnodup => by
    -- the first format has an entry on both sides, or on neither
    obtain ⟨hfresh, hrest⟩ := List.nodup_cons.mp hnodup
    rw [List.forall_mem_cons, ← forall₂_entriesOf_iff hrest]
    cases ha : a.get? f with
    | none =>
      cases hb : b.get? f with
      | none => simp [entriesOf_cons_none ha, entriesOf_cons_none hb]
      | some t =>
        rw [entriesOf_cons_none ha, entriesOf_cons_some hb]
        refine ⟨fun h => ?_, fun h => nomatch h.1⟩
        -- the format would have an entry on the left too
        have hmem : f ∈ (a.entriesOf rest).map Prod.fst := by
          rw [formats_eq_of_forall₂ h]
          exact List.mem_cons_self ..
        exact absurd (mem_of_mem_entriesOf hmem) hfresh
    | some s =>
      cases hb : b.get? f with
      | none =>
        rw [entriesOf_cons_some ha, entriesOf_cons_none hb]
        refine ⟨fun h => ?_, fun h => nomatch h.1⟩
        have hmem : f ∈ (b.entriesOf rest).map Prod.fst := by
          rw [← formats_eq_of_forall₂ h]
          exact List.mem_cons_self ..
        exact absurd (mem_of_mem_entriesOf hmem) hfresh
      | some t =>
        rw [entriesOf_cons_some ha, entriesOf_cons_some hb, List.forall₂_cons]
        simp [EntryRel]

/-- Overrides are related format by format exactly when their entries are, one by one. -/
theorem forall₂_entries_iff {R : Step → Step → Prop} {a b : Overrides} :
    List.Forall₂ (EntryRel R) a.entries b.entries ↔
      ∀ f, Option.Rel R (a.get? f) (b.get? f) := by
  rw [show a.entries = a.entriesOf Format.all from rfl,
    show b.entries = b.entriesOf Format.all from rfl, forall₂_entriesOf_iff (by decide)]
  exact ⟨fun h f => h f f.mem_all, fun h f _ => h f⟩

/-- The same formats have a step of their own, and the steps agree. -/
def Agree (a b : Overrides) : Prop := ∀ f, Option.Rel Step.Agree (a.get? f) (b.get? f)

def WithinLimits (o : Overrides) : Prop := ∀ f, OptionWithinLimits Step.WithinLimits (o.get? f)

theorem rel_of_same {a b : Overrides} (h : (a == b) = true) (f : Format) :
    Option.Rel (fun s t => (s == t) = true) (a.get? f) (b.get? f) :=
  rel_of_beq (List.all_eq_true.mp h f f.mem_all)

theorem eq_of_agree {a b : Overrides} (hsame : (a == b) = true) (hagree : a.Agree b) : a = b := by
  apply ext_get?
  intro f
  exact rel_eq_of Step.eq_of_agree (rel_of_same hsame f) (hagree f)

theorem comparable {a b : Overrides} (h : Comparable WithinLimits (· == ·) a b) :
    SizesTell a.entries.length b.entries.length ∧
      ∀ p ∈ a.entries.zip b.entries, Comparable Step.WithinLimits (· == ·) p.1.2 p.2.2 := by
  -- there are six formats, so the number of entries needs no limit
  have hlen : ∀ o : Overrides, o.entries.length < 2 ^ 32 := fun o =>
    Nat.lt_of_le_of_lt (List.length_filterMap_le _ _) (by decide)
  refine ⟨sizesTell_of_lt (hlen a) (hlen b), fun p hp => ?_⟩
  rcases h with ⟨ha, hb⟩ | hsame
  · obtain ⟨hleft, hright⟩ := List.of_mem_zip hp
    have hstep : ∀ {o : Overrides} {e}, o.WithinLimits → e ∈ o.entries → e.2.WithinLimits := by
      intro o e ho he
      obtain ⟨f, -, hf⟩ := List.mem_filterMap.mp he
      obtain ⟨step, hget, rfl⟩ := Option.map_eq_some_iff.mp hf
      exact ho f step hget
    exact .inl ⟨hstep ha hleft, hstep hb hright⟩
  · exact .inr (List.forall₂_zip (forall₂_entries_iff.mpr (rel_of_same hsame)) hp).2

end Overrides

/-! ## Posters -/

/-- A text within limits, if there is any. -/
abbrev OptionalTextWithinLimits : Option String → Prop := OptionWithinLimits TextWithinLimits

/-- The controls are equal, and the steps agree. -/
structure PosterAsset.Agree (p q : PosterAsset) : Prop where
  cloudName : p.cloudName = q.cloudName
  publicId : p.publicId = q.publicId
  resourceType : p.resourceType = q.resourceType
  format : p.format = q.format
  secure : p.secure = q.secure
  params : p.params.Agree q.params
  chain : List.Forall₂ Step.Agree p.chain q.chain

structure PosterAsset.WithinLimits (p : PosterAsset) : Prop where
  cloudName : OptionalTextWithinLimits p.cloudName
  publicId : TextWithinLimits p.publicId
  format : OptionalTextWithinLimits p.format
  params : p.params.WithinLimits
  chain : ListWithinLimits Step.WithinLimits p.chain

theorem PosterAsset.same_iff {p q : PosterAsset} : (p == q) = true ↔
    p.cloudName = q.cloudName ∧ p.publicId = q.publicId ∧ p.resourceType = q.resourceType ∧
      p.format = q.format ∧ p.secure = q.secure ∧ (p.params == q.params) = true ∧
      (p.chain == q.chain) = true := by
  show (_ && _) = true ↔ _
  simp only [Bool.and_eq_true, beq_iff_eq, and_assoc]

theorem PosterAsset.eq_of_agree {p q : PosterAsset} (hsame : (p == q) = true)
    (hagree : p.Agree q) : p = q := by
  obtain ⟨-, -, -, -, -, hparams, hchain⟩ := same_iff.mp hsame
  obtain ⟨hcloud, hid, htype, hformat, hsecure, hparams', hchain'⟩ := hagree
  have hstep := Step.eq_of_agree hparams hparams'
  have hsteps := forall₂_eq_of Step.eq_of_agree (forall₂_of_beq hchain) hchain'
  exact PosterAsset.ext hcloud hid htype hformat hsecure hstep hsteps

namespace Poster

/-- Posters have one form; URLs and schemes are equal, assets agree. -/
def Agree : Poster → Poster → Prop
  | .url s, .url t => s = t
  | .frame a, .frame b => a = b
  | .asset p, .asset q => p.Agree q
  | _, _ => False

def WithinLimits : Poster → Prop
  | .url text => TextWithinLimits text
  | .frame _ => True
  | .asset p => p.WithinLimits

theorem eq_of_agree {p q : Poster} (hsame : (p == q) = true) (hagree : p.Agree q) : p = q := by
  cases p <;> cases q <;> try exact hagree.elim
  case url.url => exact congrArg Poster.url hagree
  case frame.frame => exact congrArg Poster.frame hagree
  case asset.asset => exact congrArg Poster.asset (PosterAsset.eq_of_agree hsame hagree)

end Poster

/-! ## Configurations -/

namespace Config

/-- What is not a parameter is equal, and the parameters agree. -/
structure Agree (c d : Config) : Prop where
  asset : c.asset = d.asset
  secure : c.secure = d.secure
  formats : c.formats = d.formats
  params : c.params.Agree d.params
  chain : List.Forall₂ Step.Agree c.chain d.chain
  overrides : c.overrides.Agree d.overrides
  poster : Option.Rel Poster.Agree c.poster d.poster

/-- **Every string, list and map of the configuration is shorter than `2 ^ 32`.** A format is one
of six tokens, so the texts of formats need no limit. -/
structure WithinLimits (c : Config) : Prop where
  cloudName : TextWithinLimits c.asset.cloudName
  publicId : TextWithinLimits c.asset.publicId
  format : OptionalTextWithinLimits c.asset.format
  formats : ListWithinLimits (fun _ => True) c.formats
  params : c.params.WithinLimits
  chain : ListWithinLimits Step.WithinLimits c.chain
  overrides : c.overrides.WithinLimits
  poster : OptionWithinLimits Poster.WithinLimits c.poster

theorem same_iff {c d : Config} : (c == d) = true ↔
    c.asset = d.asset ∧ c.secure = d.secure ∧ c.formats = d.formats ∧
      (c.params == d.params) = true ∧ (c.chain == d.chain) = true ∧
      (c.overrides == d.overrides) = true ∧ (c.poster == d.poster) = true := by
  show (_ && _) = true ↔ _
  simp only [Bool.and_eq_true, beq_iff_eq, and_assoc]

/-- **The same configurations that agree are one configuration.** -/
theorem eq_of_agree {c d : Config} (hsame : (c == d) = true) (hagree : c.Agree d) : c = d := by
  obtain ⟨-, -, -, hparams, hchain, hoverrides, hposter⟩ := same_iff.mp hsame
  obtain ⟨hasset, hsecure, hformats, hparams', hchain', hoverrides', hposter'⟩ := hagree
  -- each part is the same and agrees, so it is equal
  have hstep := Step.eq_of_agree hparams hparams'
  have hsteps := forall₂_eq_of Step.eq_of_agree (forall₂_of_beq hchain) hchain'
  have hown := Overrides.eq_of_agree hoverrides hoverrides'
  have hposters := rel_eq_of Poster.eq_of_agree (rel_of_beq hposter) hposter'
  exact Config.ext hasset hsecure hformats hstep hsteps hown hposters

end Config

end VideoDelivery
