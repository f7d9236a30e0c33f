import VideoDelivery.Proofs.Video.Forms

/-!
# Which configurations are accepted

A configuration is accepted when the value of each property has its form and the two required texts
are not blank. Otherwise it is rejected for the first malformed property in key order; only where
none is malformed can it be that a required text is missing.

* `Config.failsAsConfiguration_check` — a reader fails for a cause in the configuration, one that is
  found in reading.
* `Config.FailsThrough.bind` — one more property that is read before others.
* `Config.isOk_ofProperties_iff`, `Config.ofProperties_eq_error_iff` — acceptance and rejection of
  properties under canonical names.
* `Props.resolve_iff_acceptable` — **which properties resolve, and the error of those that do not**.
-/

namespace VideoDelivery

/-! ## Errors -/

/-- The causes that are found when properties are read; all others are found later. -/
def Cause.FoundInReading : Cause → Prop
  | .cloudNameNeededToAddress | .noSource | .defaultPoster _ | .stated _ => False
  | _ => True

/-- If there is no result, it is for a cause in the configuration, found in reading. -/
def FailsAsConfiguration {α : Type} (x : Except Error α) : Prop :=
  ∀ e, x = .error e → ∃ cause, e = .configuration cause ∧ cause.FoundInReading

namespace FailsAsConfiguration

variable {α β : Type}

theorem ok (a : α) : FailsAsConfiguration (.ok a) := nofun

theorem error (cause : Cause) (h : cause.FoundInReading) :
    FailsAsConfiguration (.error (.configuration cause) : Except Error α) := by
  rintro _ ⟨⟩
  exact ⟨cause, rfl, h⟩

theorem bind {x : Except Error α} {f : α → Except Error β} (hx : FailsAsConfiguration x)
    (hf : ∀ a, FailsAsConfiguration (f a)) : FailsAsConfiguration (x >>= f) := by
  intro e h
  rcases bind_eq_error.mp h with h | ⟨a, -, h⟩
  · exact hx e h
  · exact hf a e h

theorem map {x : Except Error α} (f : α → β) (hx : FailsAsConfiguration x) :
    FailsAsConfiguration (x.map f) := by
  cases x with
  | ok a => exact ok (f a)
  | error e =>
    intro e' h
    obtain rfl := Except.error.inj h
    exact hx e rfl

theorem ite {c : Prop} [Decidable c] {x y : Except Error α} (hx : FailsAsConfiguration x)
    (hy : FailsAsConfiguration y) : FailsAsConfiguration (if c then x else y) := by
  split
  · exact hx
  · exact hy

theorem mapM {f : α → Except Error β} (hf : ∀ a, FailsAsConfiguration (f a)) (xs : List α) :
    FailsAsConfiguration (xs.mapM f) := by
  induction xs with
  | nil => exact ok []
  | cons x xs ih =>
    rw [List.mapM_cons]
    exact bind (hf x) fun _ => bind ih fun _ => ok _

theorem resourceTypeToken (s : String) : FailsAsConfiguration (ResourceType.ofToken s) := by
  unfold ResourceType.ofToken
  split
  · exact ok _
  · exact error _ trivial

theorem formatToken (s : String) : FailsAsConfiguration (Format.ofToken s) := by
  unfold Format.ofToken
  split
  · exact ok _
  · exact error _ trivial

theorem text (name : String) (v : Json) : FailsAsConfiguration (Config.textOf name v) := by
  cases v with
  | str s => exact ok s
  | _ => exact error _ trivial

theorem optionalText (name : String) (v : Json) :
    FailsAsConfiguration (Config.optionalTextOf name v) := by
  cases v with
  | null => exact ok none
  | str s => exact ok (some s)
  | _ => exact error _ trivial

theorem flag (name : String) (v : Json) : FailsAsConfiguration (Config.flagOf name v) := by
  cases v with
  | null => exact ok false
  | bool b => exact ok b
  | _ => exact error _ trivial

theorem resourceType (name : String) (v : Json) :
    FailsAsConfiguration (Config.resourceTypeOf name v) :=
  bind (text name v) resourceTypeToken

theorem formats (v : Json) : FailsAsConfiguration (Format.listOfJson v) := by
  cases v with
  | null => exact ok []
  | str s => exact bind (formatToken s) fun _ => ok _
  | arr items =>
    refine mapM (fun item => ?_) items
    cases item with
    | str s => exact formatToken s
    | _ => exact error _ trivial
  | _ => exact error _ trivial

theorem overridesEntries (fields : List (String × Json)) (o : Overrides) :
    FailsAsConfiguration (o.ofPropertyEntries fields) := by
  induction fields generalizing o with
  | nil => exact ok o
  | cons e rest ih =>
    obtain ⟨key, v⟩ := e
    refine bind (formatToken key) fun format => ?_
    cases v with
    | obj fields => exact ih _
    | _ => exact error _ trivial

theorem overrides (v : Json) : FailsAsConfiguration (Overrides.ofProperty v) := by
  cases v with
  | null => exact ok _
  | obj fields => exact overridesEntries _ _
  | _ => exact error _ trivial

theorem chainItems (items : List Json) (index : Nat) :
    FailsAsConfiguration (Chain.ofItems index items) := by
  induction items generalizing index with
  | nil => exact ok []
  | cons v rest ih =>
    cases v with
    | obj fields => exact bind (ih (index + 1)) fun _ => ok _
    | _ => exact error _ trivial

theorem chain (v : Json) : FailsAsConfiguration (Chain.ofJson v) := by
  cases v with
  | null => exact ok []
  | obj fields => exact ok _
  | arr items => exact chainItems items 0
  | _ => exact error _ trivial

theorem posterField (p : PosterAsset) (key : String) (v : Json) :
    FailsAsConfiguration (p.addField key v) := by
  unfold PosterAsset.addField
  -- only a type and a chain can be refused
  refine ite (ok _) (ite (ok _) (ite ?_ (ite (ok _) (ite (ok _) (ite ?_ (ok _))))))
  · cases v.asString? with
    | none => exact ok _
    | some token => exact bind (resourceTypeToken token) fun _ => ok _
  · exact bind (chain v) fun _ => ok _

theorem posterFields (fields : List (String × Json)) (p : PosterAsset) :
    FailsAsConfiguration (p.addFields fields) := by
  induction fields generalizing p with
  | nil => exact ok p
  | cons e rest ih => exact bind (posterField p e.1 e.2) ih

theorem poster (v : Json) : FailsAsConfiguration (Poster.ofProperty v) := by
  cases v with
  | obj fields => exact bind (bind (posterFields _ _) fun _ => ok _) fun _ => ok _
  | _ => exact ok _

end FailsAsConfiguration

namespace Config

theorem failsAsConfiguration_check (name : String) (v : Json) :
    FailsAsConfiguration (check name v) := by
  unfold check
  split
  · exact .map _ (.text _ v)
  · exact .map _ (.text _ v)
  · exact .map _ (.resourceType _ v)
  · exact .map _ (.optionalText _ v)
  · exact .map _ (.flag _ v)
  · exact .map _ (.formats v)
  · exact .map _ (.overrides v)
  · exact .map _ (.ite (.chain v) (.ok []))
  · exact .map _ (.poster v)
  · exact .ok ()

/-! ## The first malformed property -/

/-- The property is set to a value that has not its form. -/
def Malformed (m : PropertyMap) (name : String) : Prop :=
  ∃ v, m.get? name = some v ∧ ¬ WellFormed name v

/-- The property is a text that is not blank. -/
def NonBlank (m : PropertyMap) (name : String) : Prop :=
  ∃ s, m.get? name = some (.str s) ∧ Text.trim s ≠ ""

/-- Every property has its form and the required ones are texts that are not blank. -/
structure Acceptable (m : PropertyMap) : Prop where
  wellFormed : ∀ name v, m.get? name = some v → WellFormed name v
  cloudName : NonBlank m "cloud_name"
  publicId : NonBlank m "public_id"

/-- Why properties are rejected: for the first malformed one in key order, or else for a required
text that is missing. -/
inductive Rejected (m : PropertyMap) : Error → Prop
  | malformed {name : String} {v : Json} {cause : Cause} (hget : m.get? name = some v)
    (hcheck : check name v = .error (.configuration cause))
    (hfirst : ∀ other, Malformed m other → name ≤ other) : Rejected m (.configuration cause)
  | cloudName (hformed : ∀ name, ¬ Malformed m name) (hmissing : ¬ NonBlank m "cloud_name") :
    Rejected m (.configuration .missingCloudName)
  | publicId (hformed : ∀ name, ¬ Malformed m name) (hcloud : NonBlank m "cloud_name")
    (hmissing : ¬ NonBlank m "public_id") : Rejected m (.configuration .missingPublicId)

/-- The properties that have a form, in the order in which they are read. -/
def typedNames : List String := ["cloud_name", "format", "poster", "public_id", "resource_type",
  "secure", "source_transformation", "source_types", "transformation"]

theorem mem_typedNames_of_malformed {m : PropertyMap} {name : String} (h : Malformed m name) :
    name ∈ typedNames := by
  obtain ⟨v, -, hbad⟩ := h
  by_contra hname
  simp only [typedNames, List.mem_cons, List.not_mem_nil, or_false, not_or] at hname
  refine hbad ?_
  unfold WellFormed
  split <;> simp_all

theorem sorted_typedNames : typedNames.Pairwise (· < ·) := by
  decide +kernel

/-- Of some properties, read in turn, the first malformed one fails with this error. -/
def FailsIn (m : PropertyMap) (e : Error) : List String → Prop
  | [] => False
  | name :: rest => (∃ v, m.get? name = some v ∧ check name v = .error e) ∨
      (¬ Malformed m name ∧ FailsIn m e rest)

theorem first_of_failsIn {m : PropertyMap} {e : Error} {names : List String}
    (h : FailsIn m e names) (hsorted : names.Pairwise (· < ·)) :
    ∃ name v, m.get? name = some v ∧ check name v = .error e ∧
      ∀ other ∈ names, Malformed m other → name ≤ other := by
  induction names with
  | nil => exact h.elim
  | cons k rest ih =>
    obtain ⟨hfirst, hlater⟩ := List.pairwise_cons.mp hsorted
    rcases h with ⟨v, hget, hcheck⟩ | ⟨hformed, h⟩
    · -- it fails itself, and in a sorted list every later name comes after it
      refine ⟨k, v, hget, hcheck, fun other hmem _ => ?_⟩
      rcases List.mem_cons.mp hmem with rfl | hmem
      · exact String.le_refl _
      · exact String.not_lt.mp (String.lt_asymm (hfirst other hmem))
    · -- it is well formed, so the least one is among the later names
      obtain ⟨name, v, hget, hcheck, hleast⟩ := ih h hlater
      refine ⟨name, v, hget, hcheck, fun other hmem hbad => ?_⟩
      rcases List.mem_cons.mp hmem with rfl | hmem
      · exact absurd hbad hformed
      · exact hleast other hmem hbad

/-- An error is that of the first malformed property, or one for which no property is malformed. -/
def FailsThrough {α : Type} (m : PropertyMap) (names : List String) (late : Error → Prop)
    (x : Except Error α) : Prop :=
  ∀ e, x = .error e → FailsIn m e names ∨ ((∀ name ∈ names, ¬ Malformed m name) ∧ late e)

section Property

variable {α β : Type} {m : PropertyMap} {name : String} {absent : α} {read : Json → Except Error α}

theorem not_malformed_of_property (hread : ∀ v, check name v = (read v).map fun _ => ()) {a : α}
    (h : property m name absent read = .ok a) : ¬ Malformed m name := by
  rintro ⟨v, hget, hbad⟩
  simp only [property, hget] at h
  refine hbad ((check_eq_ok_iff name v).mp ?_)
  rw [hread, h]
  rfl

theorem check_of_property (hread : ∀ v, check name v = (read v).map fun _ => ()) {e : Error}
    (h : property m name absent read = .error e) :
    ∃ v, m.get? name = some v ∧ check name v = .error e := by
  unfold property at h
  cases hget : m.get? name with
  | none =>
    rw [hget] at h
    cases h
  | some v =>
    rw [hget] at h
    refine ⟨v, rfl, ?_⟩
    rw [hread, show read v = .error e from h]
    rfl

/-- One more property is read before the others. -/
theorem FailsThrough.bind {names : List String} {late : Error → Prop} {f : α → Except Error β}
    (hread : ∀ v, check name v = (read v).map fun _ => ())
    (hf : ∀ a, property m name absent read = .ok a → FailsThrough m names late (f a)) :
    FailsThrough m (name :: names) late (property m name absent read >>= f) := by
  intro e h
  rcases bind_eq_error.mp h with h | ⟨a, ha, h⟩
  · exact .inl (.inl (check_of_property hread h))
  · have hformed := not_malformed_of_property hread ha
    rcases hf a ha e h with h | ⟨hothers, h⟩
    · exact .inl (.inr ⟨hformed, h⟩)
    · refine .inr ⟨fun k hk => ?_, h⟩
      rcases List.mem_cons.mp hk with rfl | hk
      · exact hformed
      · exact hothers k hk

end Property

/-! ## Required texts -/

theorem check_text (name : String) (v : Json) :
    (textOf name v).map (fun _ => ()) = (some <$> textOf name v).map fun _ => () := by
  cases textOf name v <;> rfl

/-- A property that was read as a text is set and not blank, or the error says so. -/
theorem nonBlank_of_text {m : PropertyMap} {name : String} {x : Option String} (cause : Cause)
    (h : property m name none (fun v => some <$> textOf name v) = .ok x) :
    (NonBlank m name ∧ ∃ s, nonBlank cause x = .ok s) ∨
      (¬ NonBlank m name ∧ nonBlank cause x = .error (.configuration cause)) := by
  unfold property at h
  cases hget : m.get? name with
  | none =>
    rw [hget] at h
    obtain rfl := Except.ok.inj h
    refine .inr ⟨?_, rfl⟩
    rintro ⟨s, hs, -⟩
    rw [hget] at hs
    cases hs
  | some v =>
    rw [hget] at h
    dsimp only at h
    cases v
    case str s =>
      obtain rfl := Except.ok.inj h
      by_cases hblank : Text.allBlank s = true
      · refine .inr ⟨?_, if_pos hblank⟩
        rintro ⟨t, ht, hne⟩
        obtain rfl : s = t := by
          rw [hget] at ht
          exact Json.str.inj (Option.some.inj ht)
        exact hne ((Text.trim_eq_empty_iff s).mpr hblank)
      · exact .inl ⟨⟨s, hget, mt (Text.trim_eq_empty_iff s).mp hblank⟩, s, if_neg hblank⟩
    -- a value that is no text was not read
    all_goals cases h

/-! ## All properties -/

theorem rejected_of_error {m : PropertyMap} {descriptors : List Step} {e : Error}
    (h : ofProperties m descriptors = .error e) : Rejected m e := by
  -- what is left to go wrong when no property is malformed
  let late : Error → Prop := fun e =>
    (¬ NonBlank m "cloud_name" ∧ e = .configuration .missingCloudName) ∨
      (NonBlank m "cloud_name" ∧ ¬ NonBlank m "public_id" ∧
        e = .configuration .missingPublicId)
  have hthrough : FailsThrough m typedNames late (ofProperties m descriptors) := by
    refine .bind (check_text _) fun cloud hcloud => ?_
    refine .bind (fun _ => rfl) fun format _ => ?_
    refine .bind (fun _ => rfl) fun poster _ => ?_
    refine .bind (check_text _) fun id hid => ?_
    refine .bind (fun _ => rfl) fun kind _ => ?_
    refine .bind (fun _ => rfl) fun secure _ => ?_
    refine .bind (fun _ => rfl) fun overrides _ => ?_
    refine .bind (fun _ => rfl) fun formats _ => ?_
    refine .bind (fun _ => rfl) fun chain _ => ?_
    intro e h
    refine .inr ⟨nofun, ?_⟩
    rcases nonBlank_of_text .missingCloudName hcloud with ⟨hset, s, hs⟩ | ⟨hset, hs⟩
    · rcases nonBlank_of_text .missingPublicId hid with ⟨hset', s', hs'⟩ | ⟨hset', hs'⟩
      · rw [hs, hs'] at h
        cases h
      · rw [hs, hs'] at h
        exact .inr ⟨hset, hset', (Except.error.inj h).symm⟩
    · rw [hs] at h
      exact .inl ⟨hset, (Except.error.inj h).symm⟩
  rcases hthrough e h with h | ⟨hformed, h⟩
  · obtain ⟨name, v, hget, hcheck, hleast⟩ := first_of_failsIn h sorted_typedNames
    obtain ⟨cause, rfl, -⟩ := failsAsConfiguration_check name v e hcheck
    exact .malformed hget hcheck fun other hbad =>
      hleast other (mem_typedNames_of_malformed hbad) hbad
  · have hformed : ∀ name, ¬ Malformed m name := fun name hbad =>
      hformed name (mem_typedNames_of_malformed hbad) hbad
    rcases h with ⟨hmissing, rfl⟩ | ⟨hcloud, hmissing, rfl⟩
    · exact .cloudName hformed hmissing
    · exact .publicId hformed hcloud hmissing

theorem malformed_of_check {m : PropertyMap} {name : String} {v : Json} {e : Error}
    (hget : m.get? name = some v) (hcheck : check name v = .error e) : Malformed m name := by
  refine ⟨v, hget, fun hformed => ?_⟩
  rw [(check_eq_ok_iff name v).mpr hformed] at hcheck
  cases hcheck

theorem Rejected.not_acceptable {m : PropertyMap} {e : Error} (h : Rejected m e) :
    ¬ Acceptable m := by
  intro hacceptable
  cases h with
  | malformed hget hcheck _ =>
    obtain ⟨v, hv, hbad⟩ := malformed_of_check hget hcheck
    exact hbad (hacceptable.wellFormed _ v hv)
  | cloudName _ hmissing => exact hmissing hacceptable.cloudName
  | publicId _ _ hmissing => exact hmissing hacceptable.publicId

/-- There is one reason for rejection at most. -/
theorem Rejected.unique {m : PropertyMap} {e e' : Error} (h : Rejected m e) (h' : Rejected m e') :
    e = e' := by
  cases h with
  | malformed hget hcheck hfirst =>
    have hbad := malformed_of_check hget hcheck
    cases h' with
    | malformed hget' hcheck' hfirst' =>
      have hbad' := malformed_of_check hget' hcheck'
      -- neither comes after the other, so both are one property
      obtain rfl := String.le_antisymm (hfirst _ hbad') (hfirst' _ hbad)
      obtain rfl := Option.some.inj (hget.symm.trans hget')
      exact Except.error.inj (hcheck.symm.trans hcheck')
    | cloudName hformed _ => exact absurd hbad (hformed _)
    | publicId hformed _ _ => exact absurd hbad (hformed _)
  | cloudName hformed hmissing =>
    cases h' with
    | malformed hget hcheck _ => exact absurd (malformed_of_check hget hcheck) (hformed _)
    | cloudName _ _ => rfl
    | publicId _ hcloud _ => exact absurd hcloud hmissing
  | publicId hformed hcloud _ =>
    cases h' with
    | malformed hget hcheck _ => exact absurd (malformed_of_check hget hcheck) (hformed _)
    | cloudName _ hmissing => exact absurd hcloud hmissing
    | publicId _ _ _ => rfl

theorem acceptable_of_ok {m : PropertyMap} {descriptors : List Step} {c : Config}
    (h : ofProperties m descriptors = .ok c) : Acceptable m := by
  unfold ofProperties at h
  simp only [bind_eq_ok] at h
  obtain ⟨cloud, hcloud, format, hformat, poster, hposter, id, hid, kind, hkind, secure, hsecure,
    overrides, hoverrides, formats, hformats, chain, hchain, cloudName, hcloudName,
    publicId, hpublicId, -⟩ := h
  constructor
  case wellFormed =>
    intro name v hget
    by_contra hbad
    have hmalformed : Malformed m name := ⟨v, hget, hbad⟩
    have hmem := mem_typedNames_of_malformed hmalformed
    simp only [typedNames, List.mem_cons, List.not_mem_nil, or_false] at hmem
    -- each name is read by its own reader, and that one has returned
    rcases hmem with rfl | rfl | rfl | rfl | rfl | rfl | rfl | rfl | rfl
    · refine not_malformed_of_property ?_ hcloud hmalformed
      exact check_text _
    · exact not_malformed_of_property (fun _ => rfl) hformat hmalformed
    · exact not_malformed_of_property (fun _ => rfl) hposter hmalformed
    · refine not_malformed_of_property ?_ hid hmalformed
      exact check_text _
    · exact not_malformed_of_property (fun _ => rfl) hkind hmalformed
    · exact not_malformed_of_property (fun _ => rfl) hsecure hmalformed
    · exact not_malformed_of_property (fun _ => rfl) hoverrides hmalformed
    · exact not_malformed_of_property (fun _ => rfl) hformats hmalformed
    · exact not_malformed_of_property (fun _ => rfl) hchain hmalformed
  case cloudName =>
    rcases nonBlank_of_text .missingCloudName hcloud with ⟨hset, -⟩ | ⟨-, hmissing⟩
    · exact hset
    · rw [hmissing] at hcloudName
      cases hcloudName
  case publicId =>
    rcases nonBlank_of_text .missingPublicId hid with ⟨hset, -⟩ | ⟨-, hmissing⟩
    · exact hset
    · rw [hmissing] at hpublicId
      cases hpublicId

/-- Properties are accepted exactly when they are acceptable. -/
theorem isOk_ofProperties_iff (m : PropertyMap) (descriptors : List Step) :
    (∃ c, ofProperties m descriptors = .ok c) ↔ Acceptable m := by
  constructor
  · rintro ⟨c, h⟩
    exact acceptable_of_ok h
  · intro hacceptable
    cases h : ofProperties m descriptors with
    | ok c => exact ⟨c, rfl⟩
    | error e => exact absurd hacceptable (rejected_of_error h).not_acceptable

/-- **Properties are rejected for the first malformed one**, or else for a required text. -/
theorem ofProperties_eq_error_iff (m : PropertyMap) (descriptors : List Step) (e : Error) :
    ofProperties m descriptors = .error e ↔ Rejected m e := by
  constructor
  · exact rejected_of_error
  · intro hrejected
    cases h : ofProperties m descriptors with
    | ok c => exact absurd (acceptable_of_ok h) hrejected.not_acceptable
    | error e' => rw [(rejected_of_error h).unique hrejected]

end Config

/-- **Properties resolve exactly when the merged configuration is acceptable**, and otherwise the
error is the one of its first malformed property, or else of a required text. -/
theorem Props.resolve_iff_acceptable (p : Props) (ctx : Context) :
    ((∃ r, p.resolve ctx = .ok r) ↔ Config.Acceptable ((p.mergedConfig ctx).erase "fallback")) ∧
      ∀ e, p.resolve ctx = .error e ↔
        Config.Rejected ((p.mergedConfig ctx).erase "fallback") e := by
  constructor
  · -- nothing is left to fail once the properties are read
    rw [← Config.isOk_ofProperties_iff _ (Child.allSteps p.children)]
    simp only [resolve, bind_eq_ok]
    constructor
    · rintro ⟨r, c, hc, -⟩
      exact ⟨c, hc⟩
    · rintro ⟨c, hc⟩
      exact ⟨_, c, hc, rfl⟩
  · intro e
    rw [← Config.ofProperties_eq_error_iff _ (Child.allSteps p.children) e]
    constructor
    · intro h
      rcases bind_eq_error.mp h with h | ⟨c, -, h⟩
      · exact h
      · cases h
    · intro h
      exact bind_eq_error.mpr (.inl h)

end VideoDelivery
