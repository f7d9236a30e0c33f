import VideoDelivery.Proofs.Property.Canonical
import VideoDelivery.Video.Builder

/-!
# Calls on a builder

Properties are built by any sequence of calls. A call sets one property, requests one format, gives
one format a step, or adds one child, and what it does not set it leaves alone. So each part of the
builder tells of the calls that touch it: properties and overrides of the last one for each name,
formats and children of all of them in their order.

* `Builder.Call.run_eq` — what one call does.
* `Builder.after_eq` — **what a sequence of calls does**, part by part.
* `Builder.get?_build_formats`, `Builder.get?_build_overrides`, `Builder.get?_build_of_ne` — the
  properties that are built in the end.
-/

namespace VideoDelivery

/-- After some fields have been set, a name has the value of the last one of that name. -/
theorem PropertyMap.get?_insertAll_reverse (m : PropertyMap) (fields : List (String × Json))
    (k : String) : (m.insertAll fields).get? k = (fields.reverse.lookup k).or (m.get? k) := by
  induction fields generalizing m with
  | nil => rfl
  | cons e rest ih =>
    obtain ⟨name, v⟩ := e
    show ((m.insert name v).insertAll rest).get? k = _
    rw [ih, get?_insert, List.reverse_cons, List.lookup_append, lookup_field]
    by_cases hk : k = name
    · simp [hk]
    · simp [hk]

theorem PropertyMap.insertAll_append (m : PropertyMap) (xs ys : List (String × Json)) :
    m.insertAll (xs ++ ys) = (m.insertAll xs).insertAll ys :=
  List.foldl_append

namespace Builder

/-- A call on a builder. -/
inductive Call where
  | cloudName (name : String)
  | secure (on : Bool)
  | sourceType (format : Format)
  | sourceTransformation (format : Format) (step : Step)
  | param (name : String) (value : Json)
  | transformation (step : Step)
  | poster (poster : Poster)
  | posterUrl (url : String)
  | fallback (text : String)
  | attr (name : String) (value : Json)

namespace Call

/-- The builder after a call. -/
def run (b : Builder) : Call → Builder
  | .cloudName name => b.cloudName name
  | .secure on => b.secure on
  | .sourceType format => b.sourceType format
  | .sourceTransformation format step => b.sourceTransformation format step
  | .param name value => b.param name value
  | .transformation step => b.transformation step
  | .poster shown => b.poster shown
  | .posterUrl url => b.posterUrl url
  | .fallback text => b.fallback text
  | .attr name value => b.attr name value

/-! ## What a call is for -/

/-- The property that the call sets. -/
def property? : Call → Option (String × Json)
  | .cloudName name => some ("cloud_name", .str name)
  | .secure on => some ("secure", .bool on)
  | .param name value | .attr name value => some (name, value)
  | .poster shown => some ("poster", shown.toJson)
  | .posterUrl url => some ("poster", .str url)
  | _ => none

/-- The format that the call requests. -/
def format? : Call → Option Format
  | .sourceType format => some format
  | _ => none

/-- The format that the call gives a step, as it is written. -/
def override? : Call → Option (String × Json)
  | .sourceTransformation format step => some (format.token, step.toJson)
  | _ => none

/-- The step that the call gives to a format. -/
def stepFor? (f : Format) : Call → Option Step
  | .sourceTransformation format step => if f = format then some step else none
  | _ => none

/-- The step of the descriptor that the call adds. -/
def step? : Call → Option Step
  | .transformation step => some step
  | _ => none

/-- The child that the call adds. -/
def child? : Call → Option Child
  | .transformation step => some (.descriptor step [])
  | .fallback text => some (.text text)
  | _ => none

/-- **What one call does**: it goes to its part of the builder, and leaves the others alone. -/
theorem run_eq (b : Builder) (c : Call) : c.run b = {
    attributes := b.attributes.insertAll c.property?.toList
    formats := b.formats ++ c.format?.toList
    overrides := b.overrides.insertAll c.override?.toList
    children := b.children ++ c.child?.toList } := by
  obtain ⟨attributes, formats, overrides, children⟩ := b
  cases c <;> simp [run, property?, format?, override?, child?, Builder.cloudName, Builder.secure,
    Builder.sourceType, Builder.sourceTransformation, Builder.param, Builder.transformation,
    Builder.poster, Builder.posterUrl, Builder.fallback, Builder.attr, PropertyMap.insertAll]

end Call

/-! ## Sequences of calls -/

/-- A new builder, with an identifier or without one. -/
def started : Option String → Builder
  | some publicId => ofPublicId publicId
  | none => empty

/-- The builder after some calls. -/
def after (b : Builder) (calls : List Call) : Builder := calls.foldl Call.run b

/-- **What a sequence of calls does.** -/
theorem after_eq (b : Builder) (calls : List Call) : b.after calls = {
    attributes := b.attributes.insertAll (calls.filterMap Call.property?)
    formats := b.formats ++ calls.filterMap Call.format?
    overrides := b.overrides.insertAll (calls.filterMap Call.override?)
    children := b.children ++ calls.filterMap Call.child? } := by
  induction calls generalizing b with
  | nil =>
    obtain ⟨attributes, formats, overrides, children⟩ := b
    simp [after, PropertyMap.insertAll]
  | cons c rest ih =>
    have hcons : ∀ {α : Type} (g : Call → Option α),
        (c :: rest).filterMap g = (g c).toList ++ rest.filterMap g := by
      intro α g
      rw [List.filterMap_cons]
      cases g c <;> rfl
    show (c.run b).after rest = _
    rw [ih, Call.run_eq, hcons, hcons, hcons, hcons, PropertyMap.insertAll_append,
      PropertyMap.insertAll_append, List.append_assoc, List.append_assoc]

/-- A name that no call sets a property of is not among the properties that the calls set. -/
theorem lookup_property?_eq_none {name : String} {calls : List Call}
    (h : ∀ c ∈ calls, ∀ v, c.property? ≠ some (name, v)) :
    (calls.filterMap Call.property?).reverse.lookup name = none := by
  rw [List.lookup_eq_none_iff]
  intro e he
  obtain ⟨c, hc, hset⟩ := List.mem_filterMap.mp (List.mem_reverse.mp he)
  rw [bne_iff_ne]
  rintro rfl
  exact h c hc e.2 hset

theorem formats_after_started (id : Option String) (calls : List Call) :
    ((started id).after calls).formats = calls.filterMap Call.format? := by
  rw [after_eq]
  cases id <;> rfl

theorem children_after_started (id : Option String) (calls : List Call) :
    ((started id).after calls).children = calls.filterMap Call.child? := by
  rw [after_eq]
  cases id <;> rfl

theorem overrides_after_started (id : Option String) (calls : List Call) :
    ((started id).after calls).overrides = .ofList (calls.filterMap Call.override?) := by
  rw [after_eq]
  cases id <;> rfl

/-- The descriptors are those of the calls that add one; texts have no steps. -/
theorem allSteps_filterMap_child? (calls : List Call) :
    Child.allSteps (calls.filterMap Call.child?) = calls.filterMap Call.step? := by
  induction calls with
  | nil => rfl
  | cons c rest ih =>
    cases c with
    | transformation step =>
      show step :: ([] ++ Child.allSteps (rest.filterMap Call.child?)) = _
      rw [ih]
      rfl
    | _ => exact ih

/-- The override of a format is the last one given to it. -/
theorem lookup_override? (f : Format) (calls : List Call) :
    (calls.filterMap Call.override?).lookup f.token =
      (calls.findSome? (Call.stepFor? f)).map Step.toJson := by
  induction calls with
  | nil => rfl
  | cons c rest ih =>
    cases c with
    | sourceTransformation g step =>
      show ((g.token, step.toJson) :: rest.filterMap Call.override?).lookup f.token = _
      rw [PropertyMap.lookup_field, List.findSome?_cons, Call.stepFor?, ih]
      by_cases hf : f = g
      · rw [if_pos (congrArg Format.token hf), if_pos hf]
        rfl
      · rw [if_neg fun htoken => hf (Format.token_injective htoken), if_neg hf]
    | _ => exact ih

theorem get?_overrides_after_started (id : Option String) (calls : List Call) (f : Format) :
    ((started id).after calls).overrides.get? f.token =
      (calls.reverse.findSome? (Call.stepFor? f)).map Step.toJson := by
  rw [overrides_after_started, PropertyMap.ofList, PropertyMap.get?_insertAll_reverse,
    ← List.filterMap_reverse, lookup_override?]
  exact Option.or_none

/-! ## The built properties -/

/-- The properties that some calls build, with an identifier to start with or without one. -/
def built (id : Option String) (calls : List Call) : Props := ((started id).after calls).build

section

variable {b : Builder}

theorem get?_build_formats (h : b.formats ≠ []) :
    b.build.attributes.get? "source_types" = some (.arr (b.formats.map fun f => .str f.token)) := by
  have hformats : b.formats.isEmpty = false := List.isEmpty_eq_false_iff.mpr h
  simp only [build, hformats, PropertyMap.get?_insertAll_reverse]
  cases b.overrides.isEmpty <;> rfl

theorem get?_build_overrides (h : b.overrides.isEmpty = false) :
    b.build.attributes.get? "source_transformation" = some b.overrides.toJson := by
  simp only [build, h, PropertyMap.get?_insertAll_reverse]
  cases b.formats.isEmpty <;> rfl

theorem get?_build_of_ne {k : String} (htypes : k ≠ "source_types")
    (hoverrides : k ≠ "source_transformation") :
    b.build.attributes.get? k = b.attributes.get? k := by
  simp only [build, PropertyMap.get?_insertAll_reverse]
  cases b.formats.isEmpty <;> cases b.overrides.isEmpty <;>
    simp [PropertyMap.lookup_field, htypes, hoverrides]

end

end Builder

end VideoDelivery
