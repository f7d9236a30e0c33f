import VideoDelivery.Proofs.Property.Canonical
import Mathlib.Data.List.Forall2

/-!
# Which spelling counts

Steps, configurations and passed-through attributes are all put together in the same way
(`PropertyMap.gather`): the fields are taken in key order, and each is set under the canonical name
of its key. What a name ends up with depends only on the fields that spell it.

* `PropertyMap.get?_gather_history` — **the spelling that counts** among fields in any order.
* `PropertyMap.get?_gather` — in key order it is the canonical one if it is there, and otherwise the
  first one.
* `Classified.get?_config`, `Classified.get?_passthrough` — the values after classification.
* `Context.rel_ofLayers` — what relates layers at a name relates the contexts they make.
-/

namespace VideoDelivery

/-! ## Gathering -/

/-- The fields that spell a name. -/
def spellings (canonical? : String → Option String) (k : String) (fields : List (String × Json)) :
    List (String × Json) :=
  fields.filter fun e => canonical? e.1 = some k

/-- The value that counts among the spellings of a name: the one under the name itself, or else the
first one. -/
def counted (k : String) (spelled : List (String × Json)) : Option Json :=
  (spelled.lookup k).or (spelled.head?.map Prod.snd)

/-- The map with a field set under the canonical name of its key; a key without one is passed
over. -/
def PropertyMap.gatherOne (canonical? : String → Option String) (m : PropertyMap)
    (e : String × Json) : PropertyMap :=
  match canonical? e.1 with
  | some canonical => m.insertAs canonical e.1 e.2
  | none => m

/-- The map with some fields set in turn, each under the canonical name of its key. -/
def PropertyMap.gather (canonical? : String → Option String) (m : PropertyMap)
    (fields : List (String × Json)) : PropertyMap :=
  fields.foldl (gatherOne canonical?) m

theorem spellings_cons_of_eq {canonical? : String → Option String} {k : String} {e : String × Json}
    (h : canonical? e.1 = some k) (rest : List (String × Json)) :
    spellings canonical? k (e :: rest) = e :: spellings canonical? k rest := by
  rw [spellings, List.filter_cons, if_pos (decide_eq_true h)]
  rfl

theorem spellings_cons_of_ne {canonical? : String → Option String} {k : String} {e : String × Json}
    (h : canonical? e.1 ≠ some k) (rest : List (String × Json)) :
    spellings canonical? k (e :: rest) = spellings canonical? k rest := by
  rw [spellings, List.filter_cons, if_neg (by simpa using h)]
  rfl

theorem lookup_eq_none_of_above {fields : List (String × Json)} {k : String}
    (h : ∀ e ∈ fields, k < e.1) : fields.lookup k = none := by
  rw [List.lookup_eq_none_iff]
  intro e he
  have hlt := h e he
  rw [bne_iff_ne]
  intro heq
  rw [← heq] at hlt
  exact absurd hlt (String.lt_irrefl k)

theorem PropertyMap.get?_gatherOne_of_eq {canonical? : String → Option String} {e : String × Json}
    {k : String} (h : canonical? e.1 = some k) (m : PropertyMap) :
    (m.gatherOne canonical? e).get? k =
      if e.1 = k then some e.2 else some ((m.get? k).getD e.2) := by
  rw [gatherOne, h, get?_insertAs, if_pos rfl]

theorem PropertyMap.get?_gatherOne_of_ne {canonical? : String → Option String} {e : String × Json}
    {k : String} (h : canonical? e.1 ≠ some k) (m : PropertyMap) :
    (m.gatherOne canonical? e).get? k = m.get? k := by
  unfold gatherOne
  split
  next canonical hcanonical =>
    have hne : k ≠ canonical := by
      rintro rfl
      exact h hcanonical
    rw [get?_insertAs, if_neg hne]
  next => rfl

/-- **Which spelling counts**, in whatever order the fields come: the last one that is the canonical
spelling. If none is, a value that the name had before stays, and if it had none the first spelling
counts. -/
theorem PropertyMap.get?_gather_history (canonical? : String → Option String)
    (fields : List (String × Json)) (m : PropertyMap) (k : String) :
    (m.gather canonical? fields).get? k =
      ((spellings canonical? k fields).reverse.lookup k).or
        ((m.get? k).or ((spellings canonical? k fields).head?.map Prod.snd)) := by
  induction fields generalizing m with
  | nil =>
    show m.get? k = Option.or none ((m.get? k).or none)
    rw [Option.or_none, Option.none_or]
  | cons e rest ih =>
    obtain ⟨name, value⟩ := e
    have hstep : m.gather canonical? ((name, value) :: rest) =
        (m.gatherOne canonical? (name, value)).gather canonical? rest := rfl
    rw [hstep, ih]
    by_cases hspells : canonical? name = some k
    · rw [get?_gatherOne_of_eq hspells, spellings_cons_of_eq hspells, List.reverse_cons,
        List.lookup_append, lookup_field, Option.or_assoc]
      by_cases hname : name = k
      · subst hname
        simp
      · -- a value from before stays, and otherwise this is the first spelling
        have hne : k ≠ name := fun heq => hname heq.symm
        cases m.get? k <;> simp [hname, hne]
    · rw [get?_gatherOne_of_ne hspells, spellings_cons_of_ne hspells]

theorem lookup_reverse_of_inKeyOrder {fields : List (String × Json)} (h : InKeyOrder fields)
    (k : String) : fields.reverse.lookup k = fields.lookup k := by
  induction fields with
  | nil => rfl
  | cons e rest ih =>
    obtain ⟨name, value⟩ := e
    obtain ⟨hfirst, hlater⟩ := List.pairwise_cons.mp h
    rw [List.reverse_cons, List.lookup_append, ih hlater, PropertyMap.lookup_field,
      PropertyMap.lookup_field]
    by_cases hk : k = name
    · -- the name does not come twice
      subst hk
      rw [lookup_eq_none_of_above hfirst]
      rfl
    · rw [if_neg hk, if_neg hk]
      exact Option.or_none

/-- In key order the canonical spelling of a name comes once. -/
theorem PropertyMap.get?_gather (canonical? : String → Option String)
    {fields : List (String × Json)} (h : InKeyOrder fields) (m : PropertyMap) (k : String) :
    (m.gather canonical? fields).get? k =
      ((spellings canonical? k fields).lookup k).or
        ((m.get? k).or ((spellings canonical? k fields).head?.map Prod.snd)) := by
  have hspelled : InKeyOrder (spellings canonical? k fields) := h.filter _
  rw [get?_gather_history, lookup_reverse_of_inKeyOrder hspelled]

/-- Gathered from nothing, a name has the value that counts among its spellings. -/
theorem PropertyMap.get?_gather_empty (canonical? : String → Option String)
    {fields : List (String × Json)} (h : InKeyOrder fields) (k : String) :
    (PropertyMap.empty.gather canonical? fields).get? k =
      counted k (spellings canonical? k fields) := by
  rw [get?_gather canonical? h, get?_empty, Option.none_or]
  rfl

/-! ## What is gathered -/

theorem Step.params_insertAll (s : Step) (fields : List (String × Json)) :
    (s.insertAll fields).params = s.params.gather Parameter.canonicalName? fields := by
  induction fields generalizing s with
  | nil => rfl
  | cons e rest ih =>
    have hrest := ih (s.insert e.1 e.2)
    show ((s.insert e.1 e.2).insertAll rest).params = _
    rw [hrest]
    simp only [PropertyMap.gather, List.foldl_cons, PropertyMap.gatherOne]
    -- the parameter is inserted under its canonical name, if it is one
    cases hname : Parameter.canonicalName? e.1 with
    | none => rw [insert_of_unknown s e.2 hname]
    | some canonical => rw [params_insert s e.2 hname]

/-- The name that a property is passed through under, unless it is configuration. -/
def attributeName? (name : String) : Option String :=
  match configName? name with
  | some _ => none
  | none => some ((mediaAttribute? name).getD name)

/-- An attribute is no configuration, and it is passed through under its canonical spelling or, if
it has none, as it is. -/
theorem attributeName?_eq_some_iff {name k : String} : attributeName? name = some k ↔
    configName? name = none ∧
      (mediaAttribute? name = some k ∨ mediaAttribute? name = none ∧ name = k) := by
  unfold attributeName?
  cases configName? name with
  | some canonical => exact ⟨nofun, fun h => nomatch h.1⟩
  | none => cases mediaAttribute? name <;> simp

namespace Classified

theorem config_addAll (c : Classified) (fields : List (String × Json)) :
    (c.addAll fields).config = c.config.gather configName? fields := by
  induction fields generalizing c with
  | nil => rfl
  | cons e rest ih =>
    show ((c.add e.1 e.2).addAll rest).config = _
    rw [ih]
    simp only [PropertyMap.gather, List.foldl_cons, PropertyMap.gatherOne, add]
    cases configName? e.1 with
    | some canonical => rfl
    | none => cases mediaAttribute? e.1 <;> rfl

theorem passthrough_addAll (c : Classified) (fields : List (String × Json)) :
    (c.addAll fields).passthrough = c.passthrough.gather attributeName? fields := by
  induction fields generalizing c with
  | nil => rfl
  | cons e rest ih =>
    show ((c.add e.1 e.2).addAll rest).passthrough = _
    rw [ih]
    simp only [PropertyMap.gather, List.foldl_cons, PropertyMap.gatherOne, add, attributeName?]
    cases configName? e.1 with
    | some canonical => rfl
    | none =>
      cases mediaAttribute? e.1 with
      | some canonical => rfl
      | none =>
        -- an unknown name is its own canonical name
        simp only [Option.getD_none, PropertyMap.insertAs, if_true]

/-- A configuration name has the value that counts among its spellings. -/
theorem get?_config (m : PropertyMap) (k : String) :
    (ofMap m).config.get? k = counted k (spellings configName? k m.entries) := by
  rw [ofMap, config_addAll]
  exact PropertyMap.get?_gather_empty _ m.sorted k

/-- An attribute that is passed through has the value that counts among its spellings. -/
theorem get?_passthrough (m : PropertyMap) (k : String) :
    (ofMap m).passthrough.get? k = counted k (spellings attributeName? k m.entries) := by
  rw [ofMap, passthrough_addAll]
  exact PropertyMap.get?_gather_empty _ m.sorted k

end Classified

/-! ## The same spellings -/

/-- Maps that give the spellings of a name the same values have the same fields that spell it. -/
theorem spellings_congr {canonical? : String → Option String} {k : String} {a b : PropertyMap}
    (h : ∀ name, canonical? name = some k → a.get? name = b.get? name) :
    spellings canonical? k a.entries = spellings canonical? k b.entries := by
  refine PropertyMap.eq_of_mem_iff (a.sorted.filter _) (b.sorted.filter _) fun e => ?_
  obtain ⟨name, v⟩ := e
  rw [spellings, spellings, List.mem_filter, List.mem_filter, PropertyMap.mem_entries_iff,
    PropertyMap.mem_entries_iff, decide_eq_true_iff]
  constructor
  · rintro ⟨hv, hspells⟩
    exact ⟨h name hspells ▸ hv, hspells⟩
  · rintro ⟨hv, hspells⟩
    exact ⟨h name hspells ▸ hv, hspells⟩

/-! ## Layers of context -/

theorem rel_or {α β : Type} {R : α → β → Prop} {x x' : Option α} {y y' : Option β}
    (h : Option.Rel R x y) (h' : Option.Rel R x' y') : Option.Rel R (x.or x') (y.or y') := by
  cases h with
  | none => exact h'
  | some hab => exact .some hab

theorem rel_refl {α : Type} {R : α → α → Prop} (h : ∀ a, R a a) (x : Option α) :
    Option.Rel R x x := by
  cases x with
  | none => exact .none
  | some a => exact .some (h a)

theorem none_or_some_of_rel {α β : Type} {R : α → β → Prop} {x : Option α} {y : Option β}
    (h : Option.Rel R x y) : (x = none ∧ y = none) ∨ ∃ a b, x = some a ∧ y = some b ∧ R a b := by
  cases h with
  | none => exact .inl ⟨rfl, rfl⟩
  | some hab => exact .inr ⟨_, _, rfl, rfl, hab⟩

theorem eq_of_rel_eq {α : Type} {x y : Option α} (h : Option.Rel Eq x y) : x = y := by
  cases h with
  | none => rfl
  | some hab => rw [hab]

theorem Context.get?_nest (ctx : Context) (layer : PropertyMap) (k : String) :
    (ctx.nest layer).config.get? k =
      ((Classified.ofMap layer).config.get? k).or (ctx.config.get? k) :=
  PropertyMap.get?_overlay _ _ k

theorem Context.rel_foldl_nest {R : Json → Json → Prop} {k : String}
    {layers layers' : List PropertyMap}
    (h : List.Forall₂ (fun a b => Option.Rel R ((Classified.ofMap a).config.get? k)
      ((Classified.ofMap b).config.get? k)) layers layers')
    {ctx ctx' : Context} (hctx : Option.Rel R (ctx.config.get? k) (ctx'.config.get? k)) :
    Option.Rel R ((layers.foldl nest ctx).config.get? k)
      ((layers'.foldl nest ctx').config.get? k) := by
  induction h generalizing ctx ctx' with
  | nil => exact hctx
  | cons hlayer _ ih =>
    apply ih
    rw [get?_nest, get?_nest]
    exact rel_or hlayer hctx

/-- What relates the layers of two contexts at one name relates the contexts at that name. -/
theorem Context.rel_ofLayers {R : Json → Json → Prop} {k : String}
    {layers layers' : List PropertyMap}
    (h : List.Forall₂ (fun a b => Option.Rel R ((Classified.ofMap a).config.get? k)
      ((Classified.ofMap b).config.get? k)) layers layers') :
    Option.Rel R ((ofLayers layers).config.get? k) ((ofLayers layers').config.get? k) := by
  unfold ofLayers
  exact rel_foldl_nest h .none

end VideoDelivery
