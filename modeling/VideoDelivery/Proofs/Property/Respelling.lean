import VideoDelivery.Proofs.Property.Spellings

/-!
# Respelled fields

The keys of an object may be written in other spellings, and some of its values too. A
`SpellingRule` says what may be written for what in the objects of one kind; `Respelled` relates
the fields of two objects that say the same under a rule. In neither of them two keys name one
thing: then nothing depends on which spelling counts, and so nothing on the order of the keys.

* `Respelled.rel_counted` — **each name has related values in both**.
* `Step.insertAll_congr` — respelled parameters make one step.
* `Classified.rel_config`, `Classified.passthrough_congr` — respelled properties of an element.
-/

namespace VideoDelivery

/-- What may be respelled in the objects of one kind. -/
structure SpellingRule where
  /-- What a key names, if it is recognised. -/
  name? : String → Option String
  /-- One key may be written for the other. -/
  key : String → String → Prop
  /-- Under a key, one value may be written for the other. -/
  value : String → Json → Json → Prop

/-- No two of the fields name one thing. -/
def Alone (name? : String → Option String) (fields : List (String × Json)) : Prop :=
  ∀ e ∈ fields, ∀ f ∈ fields, ∀ k, name? e.1 = some k → name? f.1 = some k → e = f

/-- Each field is a respelled one of the others, and no two name one thing. -/
structure Respelled (rule : SpellingRule) (xs ys : List (String × Json)) : Prop where
  forth : ∀ e ∈ xs, ∃ f ∈ ys, rule.key e.1 f.1 ∧ rule.value e.1 e.2 f.2
  back : ∀ f ∈ ys, ∃ e ∈ xs, rule.key e.1 f.1 ∧ rule.value e.1 e.2 f.2
  alone : Alone rule.name? xs
  alone' : Alone rule.name? ys

theorem Alone.of_nodup {name? : String → Option String} {fields : List (String × Json)}
    (h : (fields.filterMap fun e => name? e.1).Nodup) : Alone name? fields := by
  induction fields with
  | nil => exact nofun
  | cons first rest ih =>
    intro e he f hf k hek hfk
    have hrest : Alone name? rest := by
      apply ih
      rw [List.filterMap_cons] at h
      split at h
      · exact h
      · exact (List.nodup_cons.mp h).2
    -- what the first field names is not named again
    have hfirst : ∀ g ∈ rest, name? first.1 = some k → name? g.1 ≠ some k := by
      intro g hg hk hgk
      rw [List.filterMap_cons, hk] at h
      exact (List.nodup_cons.mp h).1 (List.mem_filterMap.mpr ⟨g, hg, hgk⟩)
    rcases List.mem_cons.mp he with rfl | hlater
    · rcases List.mem_cons.mp hf with rfl | hlater'
      · rfl
      · exact absurd hfk (hfirst f hlater' hek)
    · rcases List.mem_cons.mp hf with rfl | hlater'
      · exact absurd hek (hfirst e hlater hfk)
      · exact hrest e hlater f hlater' k hek hfk

/-- Fields are respelled one by one and come to stand in another order. -/
theorem Respelled.of_forall₂ {rule : SpellingRule} {xs ys : List (String × Json)}
    (zs : List (String × Json))
    (h : List.Forall₂ (fun e f => rule.key e.1 f.1 ∧ rule.value e.1 e.2 f.2) xs zs)
    (hperm : zs.Perm ys) (halone : Alone rule.name? xs) (halone' : Alone rule.name? ys) :
    Respelled rule xs ys := by
  constructor
  case alone => exact halone
  case alone' => exact halone'
  case forth =>
    intro e he
    -- the partner of a field stands at its place in `zs`
    obtain ⟨i, hi, rfl⟩ := List.getElem_of_mem he
    have hlength := h.length_eq
    exact ⟨zs[i], hperm.mem_iff.mp (List.getElem_mem _), h.get hi (hlength ▸ hi)⟩
  case back =>
    intro f hf
    obtain ⟨i, hi, rfl⟩ := List.getElem_of_mem (hperm.mem_iff.mpr hf)
    have hlength := h.length_eq
    exact ⟨xs[i], List.getElem_mem _, h.get (hlength ▸ hi) hi⟩

/-! ## Values that count -/

/-- A map has one entry for each name. -/
theorem PropertyMap.eq_of_name_eq {m : PropertyMap} {e f : String × Json} (he : e ∈ m.entries)
    (hf : f ∈ m.entries) (h : e.1 = f.1) : e = f := by
  obtain ⟨name, v⟩ := e
  obtain ⟨name', w⟩ := f
  obtain rfl : name = name' := h
  have hv := (mem_entries_iff m name v).mp he
  have hw := (mem_entries_iff m name w).mp hf
  rw [Option.some.inj (hv.symm.trans hw)]

theorem counted_of_forall_eq {k : String} {e : String × Json} {spelled : List (String × Json)}
    (hmem : e ∈ spelled) (hall : ∀ f ∈ spelled, f = e) : counted k spelled = some e.2 := by
  cases spelled with
  | nil => cases hmem
  | cons f rest =>
    obtain ⟨hf, hrest⟩ := List.forall_mem_cons.mp hall
    subst hf
    obtain ⟨name, v⟩ := f
    rw [counted, PropertyMap.lookup_field]
    by_cases hk : k = name
    · -- the field is spelled canonically
      rw [if_pos hk]
      rfl
    · -- the same field again is no canonical spelling either
      have hnone : rest.lookup k = none := by
        rw [List.lookup_eq_none_iff]
        intro f hf
        rw [hrest f hf, bne_iff_ne]
        exact hk
      rw [if_neg hk, hnone]
      rfl

theorem counted_of_alone {canonical? : String → Option String} {fields : List (String × Json)}
    (h : Alone canonical? fields) {e : String × Json} {k : String} (hmem : e ∈ fields)
    (hk : canonical? e.1 = some k) : counted k (spellings canonical? k fields) = some e.2 := by
  apply counted_of_forall_eq
  · exact List.mem_filter.mpr ⟨hmem, decide_eq_true hk⟩
  · intro f hf
    obtain ⟨hfmem, hfk⟩ := List.mem_filter.mp hf
    exact h f hfmem e hmem k (of_decide_eq_true hfk) hk

theorem counted_eq_none {canonical? : String → Option String} {fields : List (String × Json)}
    {k : String} (h : ∀ e ∈ fields, canonical? e.1 ≠ some k) :
    counted k (spellings canonical? k fields) = none := by
  have hnil : spellings canonical? k fields = [] := by
    rw [spellings, List.filter_eq_nil_iff]
    intro e he
    rw [decide_eq_true_iff]
    exact h e he
  rw [hnil]
  rfl

/-- Where the fields that spell a name are related in both directions, so are the values that
count. -/
theorem rel_counted {canonical? : String → Option String} {R : Json → Json → Prop} {k : String}
    {xs ys : List (String × Json)} (hxs : Alone canonical? xs) (hys : Alone canonical? ys)
    (hforth : ∀ e ∈ xs, canonical? e.1 = some k →
      ∃ f ∈ ys, canonical? f.1 = some k ∧ R e.2 f.2)
    (hback : ∀ f ∈ ys, canonical? f.1 = some k → ∃ e ∈ xs, canonical? e.1 = some k) :
    Option.Rel R (counted k (spellings canonical? k xs))
      (counted k (spellings canonical? k ys)) := by
  by_cases hset : ∃ e ∈ xs, canonical? e.1 = some k
  · -- one field of each spells the name, and these two are related
    obtain ⟨e, he, hek⟩ := hset
    obtain ⟨f, hf, hfk, hvalue⟩ := hforth e he hek
    rw [counted_of_alone hxs he hek, counted_of_alone hys hf hfk]
    exact .some hvalue
  · -- no field spells it, on neither side
    have hnone : ∀ e ∈ xs, canonical? e.1 ≠ some k := fun e he hek => hset ⟨e, he, hek⟩
    have hnone' : ∀ f ∈ ys, canonical? f.1 ≠ some k := fun f hf hfk => hset (hback f hf hfk)
    rw [counted_eq_none hnone, counted_eq_none hnone']
    exact .none

/-- **Each name has related values in both**, also a name that only some of the rule's names
are. -/
theorem Respelled.rel_counted {rule : SpellingRule} {xs ys : List (String × Json)}
    (h : Respelled rule xs ys) {canonical? : String → Option String}
    (hkey : ∀ a b, rule.key a b → canonical? a = canonical? b) (hxs : Alone canonical? xs)
    (hys : Alone canonical? ys) {R : Json → Json → Prop} {k : String}
    (hvalue : ∀ a v w, canonical? a = some k → rule.value a v w → R v w) :
    Option.Rel R (counted k (spellings canonical? k xs))
      (counted k (spellings canonical? k ys)) := by
  apply VideoDelivery.rel_counted hxs hys
  · intro e he hek
    obtain ⟨f, hf, hname, hval⟩ := h.forth e he
    exact ⟨f, hf, (hkey _ _ hname).symm.trans hek, hvalue _ _ _ hek hval⟩
  · intro f hf hfk
    obtain ⟨e, he, hname, -⟩ := h.back f hf
    exact ⟨e, he, (hkey _ _ hname).trans hfk⟩

/-! ## Steps -/

/-- The keys of a step may be respelled, and its values may not. -/
def Step.spelling : SpellingRule where
  name? := Parameter.canonicalName?
  key a b := Name.fold a = Name.fold b
  value _ v w := v = w

/-- Respelled parameters make one step. -/
theorem Step.insertAll_congr {xs ys : List (String × Json)} (h : Respelled Step.spelling xs ys)
    (hxs : InKeyOrder xs) (hys : InKeyOrder ys) :
    empty.insertAll xs = empty.insertAll ys := by
  apply ext_params
  apply PropertyMap.ext_get?
  intro k
  rw [params_insertAll, params_insertAll]
  show (PropertyMap.empty.gather Parameter.canonicalName? xs).get? k =
    (PropertyMap.empty.gather Parameter.canonicalName? ys).get? k
  rw [PropertyMap.get?_gather_empty _ hxs, PropertyMap.get?_gather_empty _ hys]
  apply eq_of_rel_eq
  exact h.rel_counted (fun _ _ => Parameter.canonicalName?_congr) h.alone h.alone'
    fun _ _ _ _ hvalue => hvalue

/-- Two objects whose fields are respelled parameters. -/
def Step.Respelled (xs ys : List (String × Json)) : Prop :=
  VideoDelivery.Respelled Step.spelling (PropertyMap.ofList xs).entries
    (PropertyMap.ofList ys).entries

theorem Step.ofFields_congr {xs ys : List (String × Json)} (h : Step.Respelled xs ys) :
    ofFields xs = ofFields ys :=
  insertAll_congr h (PropertyMap.ofList xs).sorted (PropertyMap.ofList ys).sorted

/-! ## Properties of an element -/

/-- What a property of an element names: configuration or a media attribute. -/
def propertyName? (name : String) : Option String := (configName? name).or (mediaAttribute? name)

/-- One name may be written for the other: it is the same, or it is recognised and the other has
its fold. -/
def RespelledName (a b : String) : Prop :=
  a = b ∨ (propertyName? a).isSome = true ∧ Name.fold a = Name.fold b

/-- Under a name, one value may be written for the other: those of configuration as `value` says,
and all others only if they are the same. It is kept folded, since opening it looks the name up in
the tables. -/
@[irreducible] def RespelledValue (value : String → Json → Json → Prop) (name : String)
    (v w : Json) : Prop :=
  match configName? name with
  | some canonical => value canonical v w
  | none => v = w

/-- Recognised properties of an element may be respelled, and the values of configuration too;
everything else stays as it is. -/
def propertySpelling (value : String → Json → Json → Prop) : SpellingRule where
  name? := propertyName?
  key := RespelledName
  value := RespelledValue value

section Properties

variable {value : String → Json → Json → Prop} {a b : PropertyMap}

/-- A spelling of a control names that control. -/
theorem configName?_of_fold {name control : String} (hcontrol : control ∈ controlNames)
    (hfold : Name.fold name = Name.fold control) : configName? name = some control :=
  (configName?_congr hfold).trans (configName?_controls control hcontrol)

theorem propertyName?_of_fold {name control : String} (hcontrol : control ∈ controlNames)
    (hfold : Name.fold name = Name.fold control) : propertyName? name = some control := by
  rw [propertyName?, configName?_of_fold hcontrol hfold, Option.some_or]

/-- One spelling of a control may be written for another one. -/
theorem respelledName_of_fold {name name' control : String} (hcontrol : control ∈ controlNames)
    (hname : Name.fold name = Name.fold control) (hname' : Name.fold name' = Name.fold control) :
    RespelledName name name' := by
  refine .inr ⟨?_, hname.trans hname'.symm⟩
  rw [propertyName?_of_fold hcontrol hname]
  rfl

theorem respelledValue_of_fold {name control : String} {v w : Json}
    (hcontrol : control ∈ controlNames) (hfold : Name.fold name = Name.fold control)
    (h : value control v w) : RespelledValue value name v w := by
  rw [RespelledValue, configName?_of_fold hcontrol hfold]
  exact h

theorem configName?_of_respelledName {x y : String} (h : RespelledName x y) :
    configName? x = configName? y := by
  rcases h with rfl | ⟨-, hfold⟩
  · rfl
  · exact configName?_congr hfold

theorem attributeName?_of_respelledName {x y : String} (h : RespelledName x y) :
    attributeName? x = attributeName? y := by
  rcases h with rfl | ⟨hknown, hfold⟩
  · rfl
  · unfold attributeName?
    rw [configName?_congr hfold]
    cases hconfig : configName? y with
    -- neither is passed through
    | some canonical => rfl
    | none =>
      -- a recognised name that is no configuration is a media attribute
      rw [propertyName?, configName?_congr hfold, hconfig, Option.none_or] at hknown
      obtain ⟨canonical, hmedia⟩ := Option.isSome_iff_exists.mp hknown
      rw [← mediaAttribute?_congr hfold, hmedia]
      rfl

theorem Alone.config {fields : List (String × Json)} (h : Alone propertyName? fields) :
    Alone configName? fields := by
  intro e he f hf k hek hfk
  apply h e he f hf k
  · rw [propertyName?, hek, Option.some_or]
  · rw [propertyName?, hfk, Option.some_or]

/-- The name that an attribute is passed through under is one that it names, or an unknown one
that is its own. -/
theorem attributeName?_eq_some {name k : String} (h : attributeName? name = some k) :
    propertyName? name = some k ∨ (propertyName? name = none ∧ name = k) := by
  obtain ⟨hconfig, hmedia | ⟨hmedia, hname⟩⟩ := attributeName?_eq_some_iff.mp h
  · left
    rw [propertyName?, hconfig, Option.none_or, hmedia]
  · right
    rw [propertyName?, hconfig, Option.none_or, hmedia]
    exact ⟨rfl, hname⟩

theorem propertyName?_attributes : ∀ k ∈ mediaAttributes, propertyName? k = some k := by
  decide +kernel

/-- What a name is recognised as is recognised as itself. -/
theorem propertyName?_canonical {name k : String} (h : propertyName? name = some k) :
    propertyName? k = some k := by
  rcases Option.or_eq_some_iff.mp h with hconfig | ⟨-, hmedia⟩
  · rw [propertyName?, configName?_canonical hconfig, Option.some_or]
  · exact propertyName?_attributes k (Name.mem_of_lookup hmedia)

theorem Alone.attribute (h : Alone propertyName? a.entries) : Alone attributeName? a.entries := by
  intro e he f hf k hek hfk
  rcases attributeName?_eq_some hek with hek | ⟨hnone, hek⟩
  · rcases attributeName?_eq_some hfk with hfk | ⟨hnone, hfk⟩
    · exact h e he f hf k hek hfk
    · -- an unknown name is not the canonical spelling of a known one
      rw [hfk, propertyName?_canonical hek] at hnone
      cases hnone
  · rcases attributeName?_eq_some hfk with hfk | ⟨-, hfk⟩
    · rw [hek, propertyName?_canonical hfk] at hnone
      cases hnone
    · exact PropertyMap.eq_of_name_eq he hf (hek.trans hfk.symm)

/-- The configurations of respelled properties have related values under each name. -/
theorem Classified.rel_config (h : Respelled (propertySpelling value) a.entries b.entries)
    (k : String) : Option.Rel (value k) ((ofMap a).config.get? k) ((ofMap b).config.get? k) := by
  rw [get?_config, get?_config]
  apply h.rel_counted (fun _ _ => configName?_of_respelledName) h.alone.config h.alone'.config
  intro name v w hname hvalue
  simp only [propertySpelling, RespelledValue, hname] at hvalue
  exact hvalue

/-- What is passed through does not depend on the spelling. -/
theorem Classified.passthrough_congr
    (h : Respelled (propertySpelling value) a.entries b.entries) :
    (ofMap a).passthrough = (ofMap b).passthrough := by
  apply PropertyMap.ext_get?
  intro k
  rw [get?_passthrough, get?_passthrough]
  apply eq_of_rel_eq
  apply h.rel_counted (fun _ _ => attributeName?_of_respelledName) h.alone.attribute
    h.alone'.attribute
  intro name v w hname hvalue
  -- the value of what is no configuration is not respelled
  have hconfig : configName? name = none := by
    unfold attributeName? at hname
    cases hconfig : configName? name with
    | none => rfl
    | some canonical =>
      rw [hconfig] at hname
      cases hname
  simp only [propertySpelling, RespelledValue, hconfig] at hvalue
  exact hvalue

end Properties

end VideoDelivery
