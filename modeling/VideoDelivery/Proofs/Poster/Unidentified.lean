import VideoDelivery.Proofs.Poster.Gathered
import VideoDelivery.Proofs.Video.Failures
import VideoDelivery.Proofs.Video.RespelledValues

/-!
# Poster objects without an identifier

A poster object that names no asset asks for the first frame of the video, whatever else is in it.
But its fields are read before the identifier is looked at, and two kinds of them can be refused: a
resource type that is not known, and a chain with an item that is no object
(`PosterAsset.FaultyField`). The first field of such a kind ends the reading, also where the object
names no asset and the field would have meant nothing.

* `PosterAsset.addFields_eq_error_iff` — **the first faulty field in key order is the one that
  fails**.
* `Poster.ofProperty_of_unidentified` — an object without an identifier is read as the first frame.
* `Poster.unidentified_is_frame` — **a poster object without an identifier is the first frame as
  long as no field is faulty**, and then nothing fails because of it.
* `Poster.unidentified_can_fail` — a faulty field is enough for a failure.
-/

namespace VideoDelivery

/-! ## Faulty fields -/

/-- A token that is not known is refused with its normal form. -/
theorem ResourceType.ofToken_eq_error_iff {s : String} {e : Error} :
    ofToken s = .error e ↔
      ¬ Named s ∧ e = .configuration (.unknownResourceType (Text.normalToken s)) := by
  rw [← isOk_ofToken_iff]
  unfold ofToken
  split
  · simp
  · simp [eq_comm]

/-- The first item that is no object is refused with its index. -/
theorem Chain.ofItems_eq_error_iff {index : Nat} {items : List Json} {e : Error} :
    ofItems index items = .error e ↔ ∃ before v after, items = before ++ v :: after ∧
      (∀ item ∈ before, item.isObject = true) ∧ v.isObject = false ∧
        e = .configuration (.chainItemNotObject (index + before.length)) := by
  induction items generalizing index with
  | nil => simp [ofItems]
  | cons w rest ih =>
    cases hw : w.isObject with
    | true =>
      -- an object is read, so what fails is further on
      have hrest : ofItems index (w :: rest) = .error e ↔ ofItems (index + 1) rest = .error e := by
        cases w
        case obj fields =>
          simp only [ofItems]
          cases ofItems (index + 1) rest <;> simp
        all_goals cases hw
      rw [hrest, ih]
      constructor
      · rintro ⟨before, v, after, rfl, hbefore, hv, rfl⟩
        refine ⟨w :: before, v, after, rfl, ?_, hv, ?_⟩
        · exact List.forall_mem_cons.mpr ⟨hw, hbefore⟩
        · rw [List.length_cons, Nat.add_assoc, Nat.add_comm 1]
      · rintro ⟨before, v, after, hitems, hbefore, hv, rfl⟩
        cases before with
        | nil =>
          obtain ⟨rfl, -⟩ := List.cons.inj hitems
          rw [hw] at hv
          cases hv
        | cons x before =>
          obtain ⟨-, rfl⟩ := List.cons.inj hitems
          refine ⟨before, v, after, rfl, (List.forall_mem_cons.mp hbefore).2, hv, ?_⟩
          rw [List.length_cons, Nat.add_assoc, Nat.add_comm 1]
    | false =>
      have hfails : ofItems index (w :: rest) =
          .error (.configuration (.chainItemNotObject index)) := by
        cases w
        case obj fields => cases hw
        all_goals rfl
      rw [hfails]
      constructor
      · intro h
        exact ⟨[], w, rest, rfl, List.forall_mem_nil _, hw, (Except.error.inj h).symm⟩
      · rintro ⟨before, v, after, hitems, hbefore, -, rfl⟩
        cases before with
        | nil => rfl
        | cons x before =>
          -- the first item is no object, and every one before the refused one is
          obtain ⟨rfl, -⟩ := List.cons.inj hitems
          rw [(List.forall_mem_cons.mp hbefore).1] at hw
          cases hw

namespace PosterAsset

/-- What a field that cannot be read fails with. -/
inductive FaultyField : String × Json → Error → Prop
  /-- The resource type is not known. -/
  | resourceType {key s : String} (hkey : Name.fold key = "resourcetype")
    (hunknown : ¬ ResourceType.Named s) :
    FaultyField (key, .str s) (.configuration (.unknownResourceType (Text.normalToken s)))
  /-- The chain holds an object, and its first item that is none comes after the ones before. -/
  | chainItem {key : String} {before after : List Json} {v : Json}
    (hkey : Name.fold key = "transformation")
    (hobject : (Json.arr (before ++ v :: after)).ContainsObject)
    (hbefore : ∀ item ∈ before, item.isObject = true) (hitem : v.isObject = false) :
    FaultyField (key, .arr (before ++ v :: after))
      (.configuration (.chainItemNotObject before.length))

theorem faultyField_of_addField {p : PosterAsset} {key : String} {v : Json} {e : Error}
    (h : p.addField key v = .error e) : FaultyField (key, v) e := by
  unfold addField at h
  dsimp only at h
  split at h
  · cases h
  split at h
  · cases h
  split at h
  next hkey =>
    -- only a text can be an unknown type
    cases v with
    | str s =>
      rcases bind_eq_error.mp h with h | ⟨t, -, h⟩
      · obtain ⟨hunknown, rfl⟩ := ResourceType.ofToken_eq_error_iff.mp h
        exact .resourceType hkey hunknown
      · cases h
    | _ => cases h
  split at h
  · cases h
  split at h
  · cases h
  split at h
  next hchain =>
    obtain ⟨hkey, hchain⟩ := hchain
    have hobject := Chain.isChain_iff.mp hchain
    rcases bind_eq_error.mp h with h | ⟨steps, -, h⟩
    · -- a chain that is refused is a list
      cases v with
      | arr items =>
        obtain ⟨before, v, after, rfl, hbefore, hv, rfl⟩ := Chain.ofItems_eq_error_iff.mp h
        rw [Nat.zero_add]
        exact .chainItem hkey hobject hbefore hv
      | obj fields => cases h
      | _ => cases hchain
    · cases h
  · cases h

theorem addField_of_faultyField {p : PosterAsset} {key : String} {v : Json} {e : Error}
    (h : FaultyField (key, v) e) : p.addField key v = .error e := by
  cases h with
  | resourceType hkey hunknown =>
    have htoken := ResourceType.ofToken_eq_error_iff.mpr ⟨hunknown, rfl⟩
    simp [addField, hkey, Json.asString?, htoken]
  | @chainItem key before after v hkey hobject hbefore hitem =>
    have hchain := Chain.isChain_iff.mpr hobject
    have hitems : Chain.ofJson (.arr (before ++ v :: after)) =
        .error (.configuration (.chainItemNotObject before.length)) :=
      Chain.ofItems_eq_error_iff.mpr
        ⟨before, v, after, rfl, hbefore, hitem, by rw [Nat.zero_add]⟩
    simp [addField, hkey, hchain, hitems]

/-- A field is faulty with the error that it fails with, whatever was read before it. -/
theorem addField_eq_error_iff {p : PosterAsset} {key : String} {v : Json} {e : Error} :
    p.addField key v = .error e ↔ FaultyField (key, v) e :=
  ⟨faultyField_of_addField, addField_of_faultyField⟩

/-- The error is that of the first field that cannot be read. -/
def FirstFault (fields : List (String × Json)) (e : Error) : Prop :=
  ∃ before f after, fields = before ++ f :: after ∧ (∀ g ∈ before, Readable g) ∧ FaultyField f e

/-- **The first faulty field is the one that fails.** -/
theorem addFields_eq_error_iff {p : PosterAsset} {fields : List (String × Json)} {e : Error} :
    p.addFields fields = .error e ↔ FirstFault fields e := by
  induction fields generalizing p with
  | nil =>
    constructor
    · intro h
      cases h
    · rintro ⟨before, f, after, hfields, -⟩
      exact absurd hfields (by simp)
  | cons f rest ih =>
    obtain ⟨key, v⟩ := f
    simp only [addFields, bind_eq_error, ih]
    constructor
    · rintro (hfails | ⟨next, hnext, before, f, after, rfl, hbefore, hf⟩)
      · have hf := addField_eq_error_iff.mp hfails
        exact ⟨[], (key, v), rest, rfl, List.forall_mem_nil _, hf⟩
      · have hread : Readable (key, v) := isOk_addField_iff.mp ⟨next, hnext⟩
        exact ⟨(key, v) :: before, f, after, rfl, List.forall_mem_cons.mpr ⟨hread, hbefore⟩, hf⟩
    · rintro ⟨before, f, after, hfields, hbefore, hf⟩
      cases before with
      | nil =>
        obtain ⟨rfl, -⟩ := List.cons.inj hfields
        exact .inl (addField_eq_error_iff.mpr hf)
      | cons g before =>
        obtain ⟨rfl, rfl⟩ := List.cons.inj hfields
        obtain ⟨hread, hbefore⟩ := List.forall_mem_cons.mp hbefore
        obtain ⟨next, hnext⟩ := isOk_addField_iff.mpr hread
        exact .inr ⟨next, hnext, before, f, after, rfl, hbefore, hf⟩

end PosterAsset

/-! ## Objects without an identifier -/

/-- The value that a map gives a name in the last spelling in key order. -/
def PropertyMap.latest? (m : PropertyMap) (name : String) : Option Json :=
  lastValue (PosterAsset.spells (Name.fold name)) m.entries

theorem PropertyMap.latest?_eq (m : PropertyMap) (name : String) {folded : String}
    (h : Name.fold name = folded) :
    m.latest? name = lastValue (PosterAsset.spells folded) m.entries := by
  rw [latest?, h]

namespace Poster

/-- No spelling of the identifier holds a text that is not blank. -/
def Unidentified (m : PropertyMap) : Prop :=
  ∀ e ∈ m.entries, Name.fold e.1 = "publicid" → ∀ s, e.2 = .str s → Text.trim s = ""

theorem ofProperty_obj_eq_error_iff {fields : List (String × Json)} {e : Error} :
    ofProperty (.obj fields) = .error e ↔
      PosterAsset.FirstFault (PropertyMap.ofList fields).entries e := by
  rw [← PosterAsset.addFields_eq_error_iff (p := {})]
  simp only [ofProperty, ofFields, bind_eq_error]
  constructor
  · rintro ((h | ⟨p, -, h⟩) | ⟨poster, -, h⟩)
    · exact h
    · cases h
    · cases h
  · exact fun h => .inl (.inl h)

/-- Whatever is read of an object without an identifier, its identifier is blank. -/
theorem allBlank_of_unidentified {m : PropertyMap} (h : Unidentified m) {p : PosterAsset}
    (hp : PosterAsset.addFields {} m.entries = .ok p) : Text.allBlank p.publicId = true := by
  rw [(PosterAsset.gathered_of_addFields hp).publicId]
  cases hlast : lastValue (PosterAsset.spells "publicid") m.entries with
  | none => rfl
  | some v =>
    obtain ⟨e, he, hspells, rfl⟩ := exists_of_lastValue hlast
    rw [Option.map_some, Option.getD_some]
    cases hvalue : e.2 with
    | str s =>
      have hblank := h e he (of_decide_eq_true hspells) s hvalue
      exact (Text.trim_eq_empty_iff s).mp hblank
    -- a value that is no text is taken for the empty one
    | _ => rfl

/-- **An object without an identifier is read as the first frame**, if it is read. The last spelling
of `secure` in key order chooses the scheme. -/
theorem ofProperty_of_unidentified {fields : List (String × Json)}
    (h : Unidentified (PropertyMap.ofList fields)) {r : Option Poster}
    (hr : ofProperty (.obj fields) = .ok r) :
    r = some (.frame (((PropertyMap.ofList fields).latest? "secure").bind Json.asBool?)) := by
  obtain ⟨p, hp, rfl⟩ := ofProperty_obj_eq_ok.mp hr
  have hsecure : Name.fold "secure" = "secure" := by decide
  rw [allBlank_of_unidentified h hp, if_pos rfl,
    (PosterAsset.gathered_of_addFields hp).secure, PropertyMap.latest?_eq _ "secure" hsecure]
  cases lastValue (PosterAsset.spells "secure") (PropertyMap.ofList fields).entries <;> rfl

end Poster

/-- Once the properties resolve, such a poster is compiled. -/
theorem Props.render_of_unidentified {p : Props} {ctx : Context} {r : Resolved}
    {fields : List (String × Json)} (h : Poster.Unidentified (PropertyMap.ofList fields))
    (hposter : (p.mergedConfig ctx).get? "poster" = some (.obj fields))
    (hr : p.resolve ctx = .ok r) : ∃ x, p.render ctx = .ok x := by
  obtain ⟨hread, -⟩ := Config.property_of_ok (ofProperties_of_resolve hr)
  rw [Config.property, PropertyMap.get?_erase, if_neg (by decide), hposter] at hread
  have hframe := Poster.ofProperty_of_unidentified h hread
  -- a first frame has no account of its own
  have hnot : ¬ Poster.BlankAccount r.config.poster := by
    rintro ⟨q, cloud, hasset, -⟩
    rw [hframe] at hasset
    cases hasset
  have hrender : p.render ctx = Rendered.ofResolved r := by
    unfold render
    rw [hr]
    rfl
  cases hx : p.render ctx with
  | ok x => exact ⟨x, rfl⟩
  | error e =>
    rw [hrender, Rendered.ofResolved_eq_error_iff (addressable_of_resolve hr)] at hx
    exact absurd hx.1 hnot

/-- **A poster object without an identifier is the first frame as long as no field is faulty.** If
it is read, it is the first frame; it is read exactly when each of its fields can be, and otherwise
the first one that cannot be decides the error. Once the properties resolve, rendering does not fail
because of it. -/
theorem Poster.unidentified_is_frame {fields : List (String × Json)}
    (h : Unidentified (PropertyMap.ofList fields)) :
    (∀ r, ofProperty (.obj fields) = .ok r →
      r = some (.frame (((PropertyMap.ofList fields).latest? "secure").bind Json.asBool?))) ∧
    ((∃ r, ofProperty (.obj fields) = .ok r) ↔
      ∀ e ∈ (PropertyMap.ofList fields).entries, PosterAsset.Readable e) ∧
    (∀ e, ofProperty (.obj fields) = .error e ↔
      PosterAsset.FirstFault (PropertyMap.ofList fields).entries e) ∧
    ∀ (p : Props) (ctx : Context) (r : Resolved),
      (p.mergedConfig ctx).get? "poster" = some (.obj fields) → p.resolve ctx = .ok r →
        ∃ x, p.render ctx = .ok x :=
  ⟨fun _ => ofProperty_of_unidentified h, isOk_ofProperty_obj_iff,
    fun _ => ofProperty_obj_eq_error_iff, fun _ _ _ => Props.render_of_unidentified h⟩

/-- A poster object with two identifiers that are none, and a scheme in two spellings. -/
def Poster.unidentifiedFields : List (String × Json) :=
  [("PublicId", .bool true), ("SECURE", .bool false), ("public_id", .str " \t"),
    ("secure", .bool true), ("transformation", .str "thumb")]

/-- It is the first frame, over the scheme of the later spelling. -/
theorem Poster.unidentified_is_frame_secure :
    Unidentified (PropertyMap.ofList unidentifiedFields) ∧
      ofProperty (.obj unidentifiedFields) = .ok (some (.frame (some true))) := by
  have hentries : (PropertyMap.ofList unidentifiedFields).entries = unidentifiedFields :=
    PropertyMap.entries_ofList (by decide +kernel)
  have hunidentified : Unidentified (PropertyMap.ofList unidentifiedFields) := by
    intro e he hfold s hs
    rw [hentries] at he
    simp only [unidentifiedFields, List.mem_cons, List.not_mem_nil, or_false] at he
    rcases he with rfl | rfl | rfl | rfl | rfl
    case inr.inr.inl =>
      obtain rfl := Json.str.inj hs
      decide +kernel
    -- the others are no texts, or no spellings of the identifier
    case inr.inr.inr.inr => exact absurd hfold (by decide)
    all_goals cases hs
  have hread : (ofProperty (.obj unidentifiedFields)).isOk = true := by decide +kernel
  have hsecure : ((PropertyMap.ofList unidentifiedFields).latest? "secure").bind Json.asBool? =
      some true := by decide +kernel
  obtain ⟨hframe, -⟩ := unidentified_is_frame hunidentified
  refine ⟨hunidentified, ?_⟩
  cases hr : ofProperty (.obj unidentifiedFields) with
  | error e =>
    rw [hr] at hread
    cases hread
  | ok r => rw [hframe r hr, hsecure]

/-- **A poster object without an identifier can fail**, for a resource type that it has no use
for. -/
theorem Poster.unidentified_can_fail :
    ¬ ∀ fields, Unidentified (PropertyMap.ofList fields) →
      ∃ secure, ofProperty (.obj fields) = .ok (some (.frame secure)) := by
  intro hframe
  have hunidentified : Unidentified (PropertyMap.ofList [("resource_type", .str "audio")]) := by
    intro e he hfold
    rw [PropertyMap.entries_ofList (by decide), List.mem_singleton] at he
    subst he
    exact absurd hfold (by decide)
  obtain ⟨secure, hread⟩ := hframe _ hunidentified
  have hfails : (ofProperty (.obj [("resource_type", .str "audio")])).isOk = false := by
    decide +kernel
  rw [hread] at hfails
  cases hfails

end VideoDelivery
