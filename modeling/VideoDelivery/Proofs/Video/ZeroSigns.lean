import VideoDelivery.Proofs.Video.Agreement

/-!
# The signs of zeros

The equality of values that decides about a reload takes `0.0` and `-0.0` for one number. So two
configurations that are the same can differ, and this module says in what: only in the signs of
their zeros. `zeroSigns` lists those signs in the order the numbers stand in.

* `Json.pinned_of_same` — values that are the same have as many zeros, and the signs of these pin
  the value down.
* `Config.eq_iff_zeroSigns_of_same` — **configurations that are the same are equal exactly when
  their zeros have the same signs**.
-/

namespace VideoDelivery

/-- The sign of a number that is a zero of binary64, if it is one. -/
def Number.zeroSigns : Number → List Bool
  | .int .. => []
  | .float x => if x.magnitude.mantissa = 0 then [x.negative] else []

namespace Json

mutual

/-- The signs of the zeros in a value, true for negative ones. -/
def zeroSigns : Json → List Bool
  | .num n => n.zeroSigns
  | .arr items => zeroSignsItems items
  | .obj fields => zeroSignsFields fields
  | .null | .bool _ | .str _ => []
termination_by structural v => v

def zeroSignsItems : List Json → List Bool
  | [] => []
  | v :: rest => zeroSigns v ++ zeroSignsItems rest
termination_by structural vs => vs

def zeroSignsFields : List (String × Json) → List Bool
  | [] => []
  | (_, v) :: rest => zeroSigns v ++ zeroSignsFields rest
termination_by structural fs => fs

end

end Json

def Step.zeroSigns (s : Step) : List Bool := Json.zeroSignsFields s.entries

def Poster.zeroSigns : Poster → List Bool
  | .asset p => p.params.zeroSigns ++ p.chain.flatMap Step.zeroSigns
  | .url _ | .frame _ => []

/-- The signs of the zeros in a configuration. -/
def Config.zeroSigns (c : Config) : List Bool :=
  c.params.zeroSigns ++ c.chain.flatMap Step.zeroSigns ++
    c.overrides.entries.flatMap (fun e => e.2.zeroSigns) ++
    (c.poster.map Poster.zeroSigns).getD []

/-! ## Pinning down -/

/-- Two things have as many signs, and are equal if their signs are. -/
def Pinned {α : Type} (signs : α → List Bool) (a b : α) : Prop :=
  (signs a).length = (signs b).length ∧ (signs a = signs b → a = b)

section

variable {α β : Type} {f : α → List Bool} {g : β → List Bool}

theorem pinned_of_eq {a b : α} (h : a = b) : Pinned f a b := ⟨congrArg (f · |>.length) h, fun _ => h⟩

theorem pinned_append {a a' : α} {b b' : β} (hf : Pinned f a a') (hg : Pinned g b b') :
    (f a ++ g b).length = (f a' ++ g b').length ∧
      (f a ++ g b = f a' ++ g b' → a = a' ∧ b = b') := by
  refine ⟨by rw [List.length_append, List.length_append, hf.1, hg.1], fun heq => ?_⟩
  -- the first parts are as long, so the signs come apart at the same place
  obtain ⟨hleft, hright⟩ := List.append_inj heq hf.1
  exact ⟨hf.2 hleft, hg.2 hright⟩

theorem pinned_flatMap {xs ys : List α} (h : List.Forall₂ (Pinned f) xs ys) :
    Pinned (List.flatMap f) xs ys := by
  induction h with
  | nil => exact pinned_of_eq rfl
  | cons hxy _ ih =>
    obtain ⟨hlen, heq⟩ := pinned_append hxy ih
    refine ⟨by simpa only [List.flatMap_cons] using hlen, fun hsigns => ?_⟩
    rw [List.flatMap_cons, List.flatMap_cons] at hsigns
    obtain ⟨rfl, rfl⟩ := heq hsigns
    rfl

end

theorem Number.pinned_of_same {m n : Number} (h : m.same n = true) :
    Pinned Number.zeroSigns m n := by
  rcases eq_or_zeros_of_same h with rfl | ⟨negative, rfl, rfl⟩
  · exact pinned_of_eq rfl
  · -- the two zeros have one sign each, and not the same
    cases negative <;> exact ⟨rfl, fun hsigns => absurd hsigns (by decide)⟩

namespace Json

mutual

theorem pinned_of_same {v w : Json} (h : same v w = true) : Pinned zeroSigns v w := by
  cases v <;> cases w <;> try exact absurd h Bool.false_ne_true
  case null.null => exact pinned_of_eq rfl
  case bool.bool => exact pinned_of_eq (congrArg Json.bool (eq_of_beq h))
  case num.num m n =>
    obtain ⟨hlen, heq⟩ := Number.pinned_of_same h
    exact ⟨hlen, fun hsigns => congrArg Json.num (heq hsigns)⟩
  case str.str => exact pinned_of_eq (congrArg Json.str (eq_of_beq h))
  case arr.arr =>
    obtain ⟨hlen, heq⟩ := pinned_of_sameItems h
    exact ⟨hlen, fun hsigns => congrArg Json.arr (heq hsigns)⟩
  case obj.obj =>
    obtain ⟨hlen, heq⟩ := pinned_of_sameFields h
    exact ⟨hlen, fun hsigns => congrArg Json.obj (heq hsigns)⟩

theorem pinned_of_sameItems {vs ws : List Json} (h : sameItems vs ws = true) :
    Pinned zeroSignsItems vs ws := by
  cases vs <;> cases ws <;> try exact absurd h Bool.false_ne_true
  case nil.nil => exact pinned_of_eq rfl
  case cons.cons v vs w ws =>
    obtain ⟨hv, hvs⟩ := Bool.and_eq_true_iff.mp h
    obtain ⟨hlen, heq⟩ := pinned_append (pinned_of_same hv) (pinned_of_sameItems hvs)
    refine ⟨hlen, fun hsigns => ?_⟩
    obtain ⟨rfl, rfl⟩ := heq hsigns
    rfl

theorem pinned_of_sameFields {vs ws : List (String × Json)} (h : sameFields vs ws = true) :
    Pinned zeroSignsFields vs ws := by
  cases vs <;> cases ws <;> try exact absurd h Bool.false_ne_true
  case nil.nil => exact pinned_of_eq rfl
  case cons.cons v vs w ws =>
    obtain ⟨k, v⟩ := v
    obtain ⟨l, w⟩ := w
    simp only [sameFields, Bool.and_eq_true, beq_iff_eq] at h
    obtain ⟨⟨rfl, hv⟩, hvs⟩ := h
    obtain ⟨hlen, heq⟩ := pinned_append (pinned_of_same hv) (pinned_of_sameFields hvs)
    refine ⟨hlen, fun hsigns => ?_⟩
    obtain ⟨rfl, rfl⟩ := heq hsigns
    rfl

end

end Json

/-! ## Steps, posters and configurations -/

theorem Step.pinned_of_same {s t : Step} (h : (s == t) = true) : Pinned Step.zeroSigns s t := by
  obtain ⟨hlen, heq⟩ := Json.pinned_of_sameFields h
  exact ⟨hlen, fun hsigns => ext_params (PropertyMap.ext_entries (heq hsigns))⟩

theorem pinned_chain {xs ys : List Step} (h : (xs == ys) = true) :
    Pinned (List.flatMap Step.zeroSigns) xs ys :=
  pinned_flatMap ((forall₂_of_beq h).imp fun _ _ => Step.pinned_of_same)

theorem Overrides.pinned_of_same {a b : Overrides} (h : (a == b) = true) :
    Pinned (fun o : Overrides => o.entries.flatMap fun e => e.2.zeroSigns) a b := by
  have hentries := forall₂_entries_iff.mpr (rel_of_same h)
  obtain ⟨hlen, heq⟩ := pinned_flatMap (f := fun e : Format × Step => e.2.zeroSigns)
    (hentries.imp fun e e' he => by
      obtain ⟨hlen, heq⟩ := Step.pinned_of_same he.2
      exact ⟨hlen, fun hsigns => Prod.ext he.1 (heq hsigns)⟩)
  refine ⟨hlen, fun hsigns => ext_get? fun f => ?_⟩
  -- equal entries give each format the same step
  have hrel : List.Forall₂ (EntryRel Eq) a.entries b.entries := by
    rw [heq hsigns]
    exact List.forall₂_same.mpr fun e _ => ⟨rfl, rfl⟩
  exact rel_eq_of (fun hst _ => hst) (forall₂_entries_iff.mp hrel f) (rel_of_same h f)

theorem Poster.pinned_of_same {p q : Poster} (h : (p == q) = true) :
    Pinned Poster.zeroSigns p q := by
  cases p <;> cases q <;> try exact absurd h Bool.false_ne_true
  case url.url => exact pinned_of_eq (congrArg Poster.url (eq_of_beq h))
  case frame.frame => exact pinned_of_eq (congrArg Poster.frame (eq_of_beq h))
  case asset.asset p q =>
    obtain ⟨hcloud, hid, htype, hformat, hsecure, hparams, hchain⟩ := PosterAsset.same_iff.mp h
    obtain ⟨hlen, heq⟩ := pinned_append (Step.pinned_of_same hparams) (pinned_chain hchain)
    refine ⟨hlen, fun hsigns => ?_⟩
    obtain ⟨hparams, hchain⟩ := heq hsigns
    exact congrArg Poster.asset
      (PosterAsset.ext hcloud hid htype hformat hsecure hparams hchain)

theorem Poster.pinned_of_same_option {x y : Option Poster} (h : (x == y) = true) :
    Pinned (fun x : Option Poster => (x.map Poster.zeroSigns).getD []) x y := by
  cases rel_of_beq h with
  | none => exact pinned_of_eq rfl
  | some hsame =>
    obtain ⟨hlen, heq⟩ := Poster.pinned_of_same hsame
    exact ⟨hlen, fun hsigns => congrArg some (heq hsigns)⟩

/-- **Configurations that are the same are equal exactly when their zeros have the same signs.** -/
theorem Config.eq_iff_zeroSigns_of_same {c d : Config} (h : (c == d) = true) :
    c = d ↔ c.zeroSigns = d.zeroSigns := by
  refine ⟨congrArg zeroSigns, fun hsigns => ?_⟩
  obtain ⟨hasset, hsecure, hformats, hparams, hchain, hoverrides, hposter⟩ := same_iff.mp h
  unfold zeroSigns at hsigns
  simp only [List.append_assoc] at hsigns
  -- the four parts with values, taken off one after the other
  have hparams := Step.pinned_of_same hparams
  have hchain := pinned_chain hchain
  have hoverrides := Overrides.pinned_of_same hoverrides
  have hposter := Poster.pinned_of_same_option hposter
  obtain ⟨hparamsSigns, hsigns⟩ := List.append_inj hsigns hparams.1
  obtain ⟨hchainSigns, hsigns⟩ := List.append_inj hsigns hchain.1
  obtain ⟨hoverridesSigns, hposterSigns⟩ := List.append_inj hsigns hoverrides.1
  exact Config.ext hasset hsecure hformats (hparams.2 hparamsSigns) (hchain.2 hchainSigns)
    (hoverrides.2 hoverridesSigns) (hposter.2 hposterSigns)

end VideoDelivery
