import VideoDelivery.Property.Map
import VideoDelivery.Transformation.Token
import VideoDelivery.Json.Fault

/-!
# Transformation steps

A step is one set of parameters; it becomes one segment of a URL. Its parameters are kept under
their canonical names whatever spelling they were given in, and names that are no parameters never
enter it. Where a parameter is given twice, the canonical spelling counts, the last one if it is
given again; among other spellings the first one counts.

* `Step.get?_insert` — what inserting does to each canonical name.
* `Step.ofFields_entries` — a step is rebuilt from its own parameters.
-/

namespace VideoDelivery

/-- The parameters of one step, all under their canonical names. -/
structure Step where
  params : PropertyMap
  canonical : ∀ e ∈ params.entries, Parameter.canonicalName? e.1 = some e.1

namespace Step

instance : BEq Step := ⟨fun a b => a.params == b.params⟩

instance : ReflBEq Step := ⟨fun {a} => by
  change (a.params == a.params) = true
  exact ReflBEq.rfl⟩

theorem ext_params {a b : Step} (h : a.params = b.params) : a = b := by
  cases a
  cases b
  cases h
  rfl

def empty : Step := ⟨.empty, by simp [PropertyMap.empty]⟩

instance : Inhabited Step := ⟨empty⟩

/-- The parameters in the order of their canonical names. -/
def entries (s : Step) : List (String × Json) := s.params.entries

def size (s : Step) : Nat := s.params.size

def isEmpty (s : Step) : Bool := s.params.isEmpty

def keys (s : Step) : List String := s.params.keys

/-- The value of a parameter in any spelling. -/
def get? (s : Step) (name : String) : Option Json :=
  (Parameter.canonicalName? name).bind s.params.get?

/-- Setting a parameter under its canonical name keeps all names canonical. -/
theorem canonical_insertAs (s : Step) {name c : String} (value : Json)
    (h : Parameter.canonicalName? name = some c) :
    ∀ e ∈ (s.params.insertAs c name value).entries, Parameter.canonicalName? e.1 = some e.1 := by
  intro e he
  rcases PropertyMap.mem_insertAs he with rfl | he
  · exact Parameter.canonicalName?_canonical h
  · exact s.canonical e he

/-- The step with a parameter set, in any spelling. -/
def insert (s : Step) (name : String) (value : Json) : Step :=
  match h : Parameter.canonicalName? name with
  | none => s
  | some c => ⟨s.params.insertAs c name value, s.canonical_insertAs value h⟩

/-- The step with some fields inserted in turn. -/
def insertAll (s : Step) (fields : List (String × Json)) : Step :=
  fields.foldl (fun acc e => acc.insert e.1 e.2) s

/-- The step of the fields of an object, inserted in key order. -/
def ofFields (fields : List (String × Json)) : Step :=
  empty.insertAll (PropertyMap.ofList fields).entries

/-- The step as an object. -/
def toJson (s : Step) : Json := s.params.toJson

/-- A step is read from an object. -/
def ofJson : Json → Except Json.ShapeFault Step
  | .obj fields => .ok (ofFields fields)
  | v => .error (.invalidType v.found .map)

/-! ## What inserting does -/

theorem params_insert (s : Step) {name c : String} (value : Json)
    (h : Parameter.canonicalName? name = some c) :
    (s.insert name value).params = s.params.insertAs c name value := by
  unfold insert
  split
  next none => rw [h] at none; cases none
  next d some =>
    rw [h] at some
    cases some
    rfl

theorem insert_of_unknown (s : Step) {name : String} (value : Json)
    (h : Parameter.canonicalName? name = none) : s.insert name value = s := by
  unfold insert
  split
  · rfl
  next c some => rw [h] at some; cases some

/-- Inserted alone, a parameter is all that a step has, and any other name is nothing. -/
theorem entries_empty_insert (name : String) (v : Json) :
    (empty.insert name v).entries = ((Parameter.canonicalName? name).map (·, v)).toList := by
  cases hname : Parameter.canonicalName? name with
  | none =>
    rw [insert_of_unknown _ _ hname]
    rfl
  | some k =>
    rw [entries, params_insert _ _ hname, PropertyMap.insertAs]
    split <;> rfl

/-- The value of a canonical name after an insertion: the new one if the canonical spelling was
used or there was none before. -/
theorem get?_insert (s : Step) (name : String) (value : Json) (k : String) :
    (s.insert name value).params.get? k =
      if Parameter.canonicalName? name = some k then
        if name = k then some value else some ((s.params.get? k).getD value)
      else s.params.get? k := by
  cases h : Parameter.canonicalName? name with
  | none => simp [insert_of_unknown s value h]
  | some c =>
    rw [params_insert s value h, PropertyMap.get?_insertAs]
    by_cases hk : k = c
    · simp [hk]
    · have : ¬ c = k := fun e => hk e.symm
      simp [hk, this]

theorem params_insertAll_of_canonical (s : Step) (fields : List (String × Json))
    (h : ∀ e ∈ fields, Parameter.canonicalName? e.1 = some e.1) :
    (s.insertAll fields).params = s.params.insertAll fields := by
  induction fields generalizing s with
  | nil => rfl
  | cons e rest ih =>
    obtain ⟨head, tail⟩ := List.forall_mem_cons.1 h
    have := ih (s.insert e.1 e.2) tail
    rw [params_insert s e.2 head] at this
    simpa [insertAll, PropertyMap.insertAll, PropertyMap.insertAs] using this

/-- A step is rebuilt from its own parameters. -/
@[simp] theorem ofFields_entries (s : Step) : ofFields s.entries = s := by
  apply ext_params
  unfold ofFields entries
  rw [PropertyMap.ofList_entries, params_insertAll_of_canonical _ _ s.canonical]
  exact PropertyMap.ofList_entries s.params

/-- A step is read back from its object. -/
theorem ofJson_toJson (s : Step) : ofJson s.toJson = .ok s :=
  congrArg Except.ok s.ofFields_entries

end Step

end VideoDelivery
