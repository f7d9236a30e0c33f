import VideoDelivery.Proofs.Builder.Declared
import VideoDelivery.Proofs.Json.Nesting
import VideoDelivery.Proofs.Video.Agreement

/-!
# Two readers of overrides

Overrides are read by two readers, one for the property of a video element and one for values that
have to be overrides. They word their errors differently, and one of them takes null for no
overrides at all; but they accept the same objects and read the same from them. A format has the
step of the last entry whose key names it (`Overrides.counting?`), so two spellings of one format
never mix.

* `Overrides.ofJson_obj_eq_ok_iff` — **what an object of overrides is read as**.
* `Overrides.ofJson_toJson` — overrides are read back from their object.
* `Overrides.get?_setAll` — what a history of calls leaves.
* `Overrides.read_alike` — **both readers agree, and what calls have built is read back**.
-/

namespace VideoDelivery

theorem Json.accepted_eq_ok {α : Type} {x : Except Error α} {a : α} :
    accepted x = .ok a ↔ x = .ok a := by
  cases x <;> simp [accepted]

namespace Overrides

/-! ## One reader and the other -/

/-- Entry by entry, both readers accept the same and set the same. -/
theorem ofJsonEntries_eq_ok_iff {fields : List (String × Json)} {o o' : Overrides} :
    o.ofJsonEntries fields = .ok o' ↔ o.ofPropertyEntries fields = .ok o' := by
  induction fields generalizing o with
  | nil =>
    constructor <;> exact fun h => congrArg Except.ok (Except.ok.inj h)
  | cons e rest ih =>
    obtain ⟨key, v⟩ := e
    simp only [ofJsonEntries, ofPropertyEntries, bind_eq_ok, Json.accepted_eq_ok]
    -- the key names a format for both or for neither, so what is left is the step
    refine exists_congr fun f => and_congr_right fun _ => ?_
    cases v
    case obj fields =>
      rw [← ih]
      constructor
      · rintro ⟨step, hstep, hrest⟩
        obtain rfl := Except.ok.inj hstep
        exact hrest
      · exact fun hrest => ⟨_, rfl, hrest⟩
    all_goals
      constructor
      · rintro ⟨step, hstep, -⟩
        cases hstep
      · intro hrest
        cases hrest

/-- **Both readers read the same from an object.** -/
theorem ofJson_obj_eq_ok_iff_ofProperty {fields : List (String × Json)} {o : Overrides} :
    ofJson (.obj fields) = .ok o ↔ ofProperty (.obj fields) = .ok o :=
  ofJsonEntries_eq_ok_iff

/-! ## What is read -/

/-- The entry that counts for a format: the last one in key order whose key names it. -/
def counting? (m : PropertyMap) (f : Format) : Option (String × Json) :=
  m.entries.reverse.find? fun e => f.token = Text.normalToken e.1

/-- Where all values are objects, the step of a format is that of the entry that counts. -/
theorem own_eq_counting? {fields : List (String × Json)}
    (h : ∀ e ∈ (PropertyMap.ofList fields).entries, e.2.isObject = true) (f : Format) :
    own (some (.obj fields)) f =
      (counting? (.ofList fields) f).bind fun e => Child.stepOfJson? e.2 := by
  -- by induction on the entries from the last one on
  have hobjects : ∀ e ∈ (PropertyMap.ofList fields).entries.reverse, e.2.isObject = true :=
    fun e he => h e (List.mem_reverse.mp he)
  unfold own counting?
  dsimp only
  generalize (PropertyMap.ofList fields).entries.reverse = es at hobjects
  induction es with
  | nil => rfl
  | cons e rest ih =>
    obtain ⟨hobject, hrest⟩ := List.forall_mem_cons.mp hobjects
    rw [List.findSome?_cons, List.find?_cons]
    by_cases hnames : f.token = Text.normalToken e.1
    · obtain ⟨key, v⟩ := e
      rw [given, if_pos hnames, decide_eq_true hnames]
      cases v
      case obj => rfl
      all_goals cases hobject
    · rw [given, if_neg hnames, decide_eq_false hnames]
      exact ih hrest

/-- **What an object of overrides is read as.** Every key has to name a format and every value has
to be an object; then a format has the step of the entry that counts for it. -/
theorem ofJson_obj_eq_ok_iff {fields : List (String × Json)} {o : Overrides} :
    ofJson (.obj fields) = .ok o ↔
      (∀ e ∈ (PropertyMap.ofList fields).entries, Format.Named e.1 ∧ e.2.isObject = true) ∧
      ∀ f, o.get? f = (counting? (.ofList fields) f).bind fun e => Child.stepOfJson? e.2 := by
  rw [ofJson_obj_eq_ok_iff_ofProperty]
  constructor
  · intro h
    have hentries := isOk_ofPropertyEntries_iff.mp ⟨o, h⟩
    refine ⟨hentries, fun f => ?_⟩
    rw [get?_ofProperty h, own_eq_counting? fun e he => (hentries e he).2]
  · rintro ⟨hentries, hget⟩
    obtain ⟨o', ho'⟩ := isOk_ofPropertyEntries_iff (o := .empty).mpr hentries
    have hread : ofProperty (.obj fields) = .ok o' := ho'
    -- it is read as some overrides, which give each format the same step
    obtain rfl : o' = o := by
      refine ext_get? fun f => ?_
      rw [hget, get?_ofProperty hread, own_eq_counting? fun e he => (hentries e he).2]
    exact hread

/-! ## Reading back -/

/-- The fields that overrides are written as. -/
def written (o : Overrides) : List (String × Json) := o.entries.map fun e => (e.1.token, e.2.toJson)

theorem mem_written {o : Overrides} {e : String × Json} (h : e ∈ o.written) :
    ∃ f step, o.get? f = some step ∧ e = (f.token, step.toJson) := by
  obtain ⟨⟨f, step⟩, hentry, rfl⟩ := List.mem_map.mp h
  obtain ⟨g, -, hg⟩ := List.mem_filterMap.mp hentry
  obtain ⟨step', hstep, heq⟩ := Option.map_eq_some_iff.mp hg
  obtain ⟨rfl, rfl⟩ := Prod.mk.inj heq
  exact ⟨g, step', hstep, rfl⟩

/-- Of the entries of some formats, the one under the token of a format is its own. -/
theorem lookup_entriesOf (o : Overrides) (f : Format) (formats : List Format) :
    ((o.entriesOf formats).map fun e => (e.1.token, e.2.toJson)).lookup f.token =
      if f ∈ formats then (o.get? f).map Step.toJson else none := by
  induction formats with
  | nil => rfl
  | cons g rest ih =>
    cases hg : o.get? g with
    | none =>
      rw [entriesOf_cons_none hg, ih]
      by_cases hf : f = g
      · simp [hf, hg]
      · simp [hf]
    | some step =>
      rw [entriesOf_cons_some hg, List.map_cons, PropertyMap.lookup_field, ih]
      by_cases hf : f = g
      · simp [hf, hg]
      · have htoken : f.token ≠ g.token := fun h => hf (Format.token_injective h)
        simp [hf, htoken]

theorem get?_written (o : Overrides) (f : Format) :
    (PropertyMap.ofList o.written).get? f.token = (o.get? f).map Step.toJson := by
  have hreverse : o.written.reverse =
      (o.entriesOf Format.all.reverse).map fun e => (e.1.token, e.2.toJson) := by
    rw [written, ← List.map_reverse, entries, ← List.filterMap_reverse, entriesOf]
  rw [PropertyMap.ofList, PropertyMap.get?_insertAll_reverse, hreverse, lookup_entriesOf,
    if_pos (List.mem_reverse.mpr f.mem_all)]
  exact Option.or_none

/-- Overrides are read back from their object. -/
theorem ofJson_toJson (o : Overrides) : ofJson o.toJson = .ok o := by
  have hkeys : ∀ e ∈ (PropertyMap.ofList o.written).entries,
      ∃ (f : Format) (step : Step), e = (f.token, step.toJson) := by
    intro e he
    obtain ⟨f, step, -, rfl⟩ := mem_written (PropertyMap.mem_ofList he)
    exact ⟨f, step, rfl⟩
  have htokens : ∀ e ∈ (PropertyMap.ofList o.written).entries, ∃ f : Format, e.1 = f.token := by
    intro e he
    obtain ⟨f, step, rfl⟩ := hkeys e he
    exact ⟨f, rfl⟩
  have hentries : ∀ e ∈ (PropertyMap.ofList o.written).entries,
      Format.Named e.1 ∧ e.2.isObject = true := by
    intro e he
    obtain ⟨f, step, rfl⟩ := hkeys e he
    exact ⟨Format.isOk_ofToken_iff.mp ⟨f, Format.ofToken_eq_ok.mpr f.normalToken_token.symm⟩, rfl⟩
  -- the object says of each format what the overrides say
  have hown : ∀ f, own (some (PropertyMap.ofList o.written).toJson) f = o.get? f := by
    intro f
    rw [own_toJson htokens, get?_written]
    cases o.get? f with
    | none => rfl
    | some step => exact Child.stepOfJson?_toJson step
  have hread : ∀ f, o.get? f =
      (counting? (.ofList o.written) f).bind fun e => Child.stepOfJson? e.2 := by
    intro f
    rw [← own_eq_counting? fun e he => (hentries e he).2, ← hown f]
    simp [own, PropertyMap.toJson]
  exact ofJson_obj_eq_ok_iff.mpr ⟨hentries, hread⟩

/-! ## Histories -/

/-- The overrides with the steps of some formats set in turn. -/
def setAll (o : Overrides) (calls : List (Format × Step)) : Overrides :=
  calls.foldl (fun acc call => acc.set call.1 call.2) o

/-- **What a history of calls leaves**: a format has the step of the last call for it, or else the
one that it had before. -/
theorem get?_setAll (o : Overrides) (calls : List (Format × Step)) (f : Format) :
    (o.setAll calls).get? f =
      ((calls.reverse.find? fun call => call.1 = f).map Prod.snd).or (o.get? f) := by
  induction calls generalizing o with
  | nil => rfl
  | cons call rest ih =>
    show ((o.set call.1 call.2).setAll rest).get? f = _
    rw [ih, get?_set, List.reverse_cons, List.find?_append, Option.map_or, Option.or_assoc]
    by_cases hf : f = call.1
    · simp [hf]
    · simp [hf, Ne.symm hf]

/-! ## Both readers -/

/-- **Both readers agree, and what calls have built is read back.** An object is read by the one
when it is read by the other, and as the same overrides: every key has to be the token of a format,
up to blanks around it and ASCII case, and every value an object, and of several keys for one format
the last in key order counts. Whatever steps are set in turn, for whatever formats and how often,
both readers give back what they have left, which is the last step that was set for each format. -/
theorem read_alike :
    (∀ fields o, ofProperty (.obj fields) = .ok o ↔ ofJson (.obj fields) = .ok o) ∧
    (∀ fields o, ofJson (.obj fields) = .ok o ↔
      (∀ e ∈ (PropertyMap.ofList fields).entries, Format.Named e.1 ∧ e.2.isObject = true) ∧
      ∀ f, o.get? f = (counting? (.ofList fields) f).bind fun e => Child.stepOfJson? e.2) ∧
    ∀ calls,
      ofProperty (empty.setAll calls).toJson = .ok (empty.setAll calls) ∧
      ofJson (empty.setAll calls).toJson = .ok (empty.setAll calls) ∧
      ∀ f, (empty.setAll calls).get? f =
        (calls.reverse.find? fun call => call.1 = f).map Prod.snd := by
  refine ⟨fun _ _ => ofJson_obj_eq_ok_iff_ofProperty.symm, fun _ _ => ofJson_obj_eq_ok_iff,
    fun calls => ⟨?_, ofJson_toJson _, fun f => ?_⟩⟩
  · exact ofJson_obj_eq_ok_iff_ofProperty.mp (ofJson_toJson (empty.setAll calls))
  · rw [get?_setAll]
    exact Option.or_none

/-- Blanks come before letters and capitals before small letters, so the small letters count. -/
example : ((ofJson (.obj [("mp4", .obj [("width", .ofNat 1)]), ("MP4", .obj [("width", .ofNat 2)]),
    (" mp4 ", .obj [("width", .ofNat 3)])])).toOption.bind fun o =>
      (o.get? .mp4).bind Step.segment?) = some "w_1" := by
  decide +kernel

end Overrides

end VideoDelivery
