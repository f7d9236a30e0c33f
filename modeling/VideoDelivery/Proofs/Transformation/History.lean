import VideoDelivery.Diagnostics.Transformation
import VideoDelivery.Proofs.Property.Mentions

/-!
# Steps and the calls that built them

A step is built from the empty one by inserting parameters in any spelling, any number of times. It
is enough to know the calls: what a parameter ends up with is the value of the last call that used
its canonical name, or else that of the first call that used some other spelling of it
(`Step.given?`). All keys are canonical on the way, so nothing that is done with a step later meets
a name that it does not know.

* `Step.get?_insertAll` — **what the calls leave**, from any step on.
* `Step.encode_ne_unknownName` — no parameter of a step is unknown to the codec.
* `Step.leftBy_history` — **steps under every history**, also those that are read from objects.
-/

namespace VideoDelivery.Step

/-! ## What calls leave -/

/-- The value that a history of calls gives a parameter: that of the last call with its canonical
name, or else that of the first call with any spelling of it. -/
def given? (calls : List (String × Json)) (k : String) : Option Json :=
  (calls.reverse.lookup k).or
    ((calls.find? fun call => Name.fold call.1 = Name.fold k).map Prod.snd)

/-- **What calls leave.** A parameter has the value of the last call with its canonical name. If
there is none, it keeps the value that it had before, and otherwise has the value of the first
call. -/
theorem get?_insertAll {k : String} (hk : k ∈ Parameter.names) (s : Step)
    (calls : List (String × Json)) :
    (s.insertAll calls).params.get? k = (calls.reverse.lookup k).or ((s.params.get? k).or
      ((calls.find? fun call => Name.fold call.1 = Name.fold k).map Prod.snd)) := by
  have hreverse : (spellings Parameter.canonicalName? k calls).reverse =
      spellings Parameter.canonicalName? k calls.reverse := List.filter_reverse.symm
  rw [params_insertAll, PropertyMap.get?_gather_history, hreverse,
    lookup_spellings (Parameter.canonicalName?_names k hk),
    head?_spellings fun _ => Parameter.canonicalName?_eq_some_iff hk]

theorem get?_empty_insertAll {k : String} (hk : k ∈ Parameter.names)
    (calls : List (String × Json)) : (empty.insertAll calls).params.get? k = given? calls k := by
  rw [get?_insertAll hk, given?]
  rfl

/-- Fields in key order are one history of calls. -/
theorem given?_entries (m : PropertyMap) (k : String) : given? m.entries k = m.mentioned? k := by
  rw [given?, lookup_reverse_of_inKeyOrder m.sorted]
  rfl

theorem isSome_given?_iff {calls : List (String × Json)} {k : String} :
    (given? calls k).isSome = true ↔ ∃ call ∈ calls, Name.fold call.1 = Name.fold k := by
  rw [given?, Option.isSome_or, Bool.or_eq_true, Option.isSome_map, List.find?_isSome]
  simp only [decide_eq_true_iff]
  constructor
  · rintro (h | h)
    · -- a call with the canonical name is one with a spelling of it
      obtain ⟨v, hv⟩ := Option.isSome_iff_exists.mp h
      obtain ⟨before, after, hcalls, -⟩ := List.lookup_eq_some_iff.mp hv
      refine ⟨(k, v), ?_, rfl⟩
      rw [← List.mem_reverse, hcalls]
      simp
    · exact h
  · exact .inr

/-! ## What is done with a step -/

theorem mem_names_of_mem_entries {s : Step} {e : String × Json} (h : e ∈ s.entries) :
    e.1 ∈ Parameter.names :=
  Parameter.mem_names_of_canonicalName? (s.canonical e h)

theorem mem_names_of_mem_keys {s : Step} {k : String} (h : k ∈ s.keys) : k ∈ Parameter.names := by
  obtain ⟨e, he, rfl⟩ := List.mem_map.mp h
  exact mem_names_of_mem_entries he

/-- Steps that agree on all canonical names are equal. -/
theorem ext_names {s t : Step}
    (h : ∀ k ∈ Parameter.names, s.params.get? k = t.params.get? k) : s = t := by
  have habsent : ∀ (s : Step) (k : String), k ∉ Parameter.names → s.params.get? k = none := by
    intro s k hk
    cases hget : s.params.get? k with
    | none => rfl
    | some v =>
      have hentry : (k, v) ∈ s.entries := (PropertyMap.mem_entries_iff ..).mpr hget
      exact absurd (mem_names_of_mem_entries hentry) hk
  refine ext_params (PropertyMap.ext_get? fun k => ?_)
  by_cases hk : k ∈ Parameter.names
  · exact h k hk
  · rw [habsent s k hk, habsent t k hk]

theorem get?_of_fold {k name : String} (hk : k ∈ Parameter.names)
    (hfold : Name.fold name = Name.fold k) (s : Step) : s.get? name = s.params.get? k := by
  rw [get?, (Parameter.canonicalName?_eq_some_iff hk).mpr hfold, Option.bind_some]

theorem get?_of_unknown {name : String} (h : ∀ k ∈ Parameter.names, Name.fold name ≠ Name.fold k)
    (s : Step) : s.get? name = none := by
  rw [get?, Parameter.canonicalName?_eq_none_iff.mpr h, Option.bind_none]

/-- A name that the codec does not know is no parameter in any spelling. -/
theorem canonicalName?_of_unknownName {name : String} {v : Json}
    (h : Token.encode name v = .error .unknownName) : Parameter.canonicalName? name = none := by
  unfold Token.encode at h
  rw [Parameter.canonicalName?]
  split at h
  · -- the raw parameter is known
    split at h
    · split at h <;> cases h
    · cases h
  next hraw =>
    rw [if_neg hraw]
    split at h
    next hfind => rw [hfind, Option.map_none]
    next p hfind =>
      split at h
      · cases h
      · split at h <;> cases h

/-- **No parameter of a step is unknown to the codec.** -/
theorem encode_ne_unknownName {s : Step} {e : String × Json} (h : e ∈ s.entries) :
    Token.encode e.1 e.2 ≠ .error .unknownName := by
  intro hunknown
  have hname := s.canonical e h
  rw [canonicalName?_of_unknownName hunknown] at hname
  cases hname

/-- Compiling a step tells of no unknown parameter. -/
theorem unknownParameter_notMem_ofSegment (s : Step) (name : String) :
    Notice.unknownParameter name ∉ Notice.ofSegment s := by
  intro h
  obtain ⟨e, he, h⟩ := List.mem_flatMap.mp h
  unfold Notice.ofEncoding at h
  split at h
  next hunknown => exact encode_ne_unknownName he hunknown
  next => simp at h
  next => cases h

/-! ## Every history -/

/-- What holds of a step that a history of calls has left. -/
structure LeftBy (s : Step) (calls : List (String × Json)) : Prop where
  /-- All keys are canonical names. -/
  canonicalKeys : ∀ k ∈ s.keys, k ∈ Parameter.names
  /-- A canonical name is there when some call used a spelling of it. -/
  called : ∀ k ∈ Parameter.names, k ∈ s.keys ↔ ∃ call ∈ calls, Name.fold call.1 = Name.fold k
  /-- It has the value that the calls give it, and is found in every spelling. -/
  value : ∀ k ∈ Parameter.names, s.params.get? k = given? calls k
  found : ∀ k ∈ Parameter.names, ∀ name, Name.fold name = Name.fold k →
    s.get? name = given? calls k
  /-- No other name has a value. -/
  notFound : ∀ name, (∀ k ∈ Parameter.names, Name.fold name ≠ Name.fold k) → s.get? name = none
  /-- The step is rebuilt from its parameters, and read back from its object. -/
  rebuilt : ofFields s.entries = s
  readBack : ofJson s.toJson = .ok s
  /-- Compiling it meets no unknown name. -/
  known : ∀ e ∈ s.entries, Token.encode e.1 e.2 ≠ .error .unknownName
  untold : ∀ name, Notice.unknownParameter name ∉ Notice.ofSegment s

theorem leftBy_insertAll (calls : List (String × Json)) : (empty.insertAll calls).LeftBy calls where
  canonicalKeys _ := mem_names_of_mem_keys
  called k hk := by
    rw [keys, PropertyMap.mem_keys_iff, get?_empty_insertAll hk, isSome_given?_iff]
  value k hk := get?_empty_insertAll hk calls
  found k hk name hfold := by rw [get?_of_fold hk hfold, get?_empty_insertAll hk]
  notFound name h := get?_of_unknown h _
  rebuilt := ofFields_entries _
  readBack := ofJson_toJson _
  known _ := encode_ne_unknownName
  untold := unknownParameter_notMem_ofSegment _

/-- **Steps under every history.** Whatever parameters are inserted into the empty step, in whatever
spellings and how often, all keys are canonical, each has the value that the calls give it, and the
step is found, rebuilt, read back and compiled as such. An object is read by one such history, so
the same holds of the step that is read from it. -/
theorem leftBy_history (calls fields : List (String × Json)) :
    (empty.insertAll calls).LeftBy calls ∧
      ∃ s, ofJson (.obj fields) = .ok s ∧ s.LeftBy (PropertyMap.ofList fields).entries :=
  ⟨leftBy_insertAll calls, _, rfl, leftBy_insertAll _⟩

end VideoDelivery.Step
