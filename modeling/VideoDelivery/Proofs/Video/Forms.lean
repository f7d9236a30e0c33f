import VideoDelivery.Proofs.Video.ConfigReading

/-!
# Forms of properties

Each property of a configuration has a form: a text, a text or null, a token, a list of tokens, and
so on. The forms are stated of the values alone (`Config.WellFormed`), without the readers that
turn a value into its type.

* `Format.isOk_listOfJson_iff`, `Overrides.isOk_ofProperty_iff`, `Config.isOk_chainOf_iff` — which
  values the readers of lists and objects accept.
* `Config.check_eq_ok_iff` — **each reader accepts exactly the values of its form**.
-/

namespace VideoDelivery

/-! ## Forms -/

/-- The text is the token of a resource type, up to blanks around it and ASCII case. -/
def ResourceType.Named (s : String) : Prop := Text.normalToken s ∈ ["image", "video", "raw"]

/-- The text is the token of a format, up to blanks around it and ASCII case. -/
def Format.Named (s : String) : Prop :=
  Text.normalToken s ∈ ["webm", "mp4", "ogv", "mov", "m3u8", "mpd"]

/-- The value is an object, or a list with an object in it. -/
def Json.ContainsObject (v : Json) : Prop :=
  v.isObject = true ∨ ∃ items, v = .arr items ∧ ∃ item ∈ items, item.isObject = true

namespace Config

/-- The form that a property of the given name asks of its value. -/
def WellFormed (name : String) (v : Json) : Prop :=
  match name with
  | "cloud_name" | "public_id" => ∃ s, v = .str s
  | "resource_type" => ∃ s, v = .str s ∧ ResourceType.Named s
  | "format" => v = .null ∨ ∃ s, v = .str s
  | "secure" => v = .null ∨ ∃ b, v = .bool b
  | "source_types" =>
    v = .null ∨ (∃ s, v = .str s ∧ Format.Named s) ∨
      ∃ items, v = .arr items ∧ ∀ item ∈ items, ∃ s, item = .str s ∧ Format.Named s
  | "source_transformation" =>
    v = .null ∨ ∃ fields, v = .obj fields ∧
      ∀ e ∈ (PropertyMap.ofList fields).entries, Format.Named e.1 ∧ e.2.isObject = true
  | "transformation" =>
    ¬ v.ContainsObject ∨ v.isObject = true ∨
      ∃ items, v = .arr items ∧ ∀ item ∈ items, item.isObject = true
  | "poster" => ∃ poster, Poster.ofProperty v = .ok poster
  | _ => True

/-- The reading of a property by itself, with its error. -/
def check (name : String) (v : Json) : Except Error Unit :=
  match name with
  | "cloud_name" => (textOf name v).map fun _ => ()
  | "public_id" => (textOf name v).map fun _ => ()
  | "resource_type" => (resourceTypeOf name v).map fun _ => ()
  | "format" => (optionalTextOf name v).map fun _ => ()
  | "secure" => (flagOf name v).map fun _ => ()
  | "source_types" => (Format.listOfJson v).map fun _ => ()
  | "source_transformation" => (Overrides.ofProperty v).map fun _ => ()
  | "transformation" => (chainOf v).map fun _ => ()
  | "poster" => (Poster.ofProperty v).map fun _ => ()
  | _ => .ok ()

end Config

/-! ## Readers -/

theorem ResourceType.ofToken_of_token {s : String} {t : ResourceType}
    (h : t.token = Text.normalToken s) : ofToken s = .ok t := by
  unfold ofToken
  rw [← h]
  cases t <;> rfl

theorem ResourceType.isOk_ofToken_iff {s : String} :
    (∃ t, ofToken s = .ok t) ↔ Named s := by
  unfold Named
  constructor
  · rintro ⟨t, h⟩
    rw [← token_of_ofToken h]
    cases t <;> decide
  · intro h
    simp only [List.mem_cons, List.not_mem_nil, or_false] at h
    rcases h with h | h | h
    · exact ⟨.image, ofToken_of_token h.symm⟩
    · exact ⟨.video, ofToken_of_token h.symm⟩
    · exact ⟨.raw, ofToken_of_token h.symm⟩

theorem Format.isOk_ofToken_iff {s : String} : (∃ f, ofToken s = .ok f) ↔ Named s := by
  unfold Named
  simp only [ofToken_eq_ok]
  constructor
  · rintro ⟨f, h⟩
    rw [← h]
    cases f <;> decide
  · intro h
    simp only [List.mem_cons, List.not_mem_nil, or_false] at h
    rcases h with h | h | h | h | h | h
    · exact ⟨.webm, h.symm⟩
    · exact ⟨.mp4, h.symm⟩
    · exact ⟨.ogv, h.symm⟩
    · exact ⟨.mov, h.symm⟩
    · exact ⟨.m3u8, h.symm⟩
    · exact ⟨.mpd, h.symm⟩

/-! ## Lists and objects -/

theorem Format.isOk_ofItem_iff {v : Json} :
    (∃ f, ofItem v = .ok f) ↔ ∃ s, v = .str s ∧ Named s := by
  cases v with
  | str s =>
    rw [show ofItem (.str s) = ofToken s from rfl, isOk_ofToken_iff]
    simp
  | _ => exact ⟨nofun, nofun⟩

theorem Format.isOk_listOfJson_iff {v : Json} :
    (∃ formats, listOfJson v = .ok formats) ↔ Config.WellFormed "source_types" v := by
  show _ ↔ v = .null ∨ (∃ s, v = .str s ∧ Named s) ∨
    ∃ items, v = .arr items ∧ ∀ item ∈ items, ∃ s, item = .str s ∧ Named s
  cases v with
  | null => exact ⟨fun _ => .inl rfl, fun _ => ⟨[], rfl⟩⟩
  | str s =>
    have hread : (∃ formats, listOfJson (.str s) = .ok formats) ↔ ∃ f, ofToken s = .ok f := by
      simp only [listOfJson, bind_eq_ok]
      constructor
      · rintro ⟨formats, f, hf, -⟩
        exact ⟨f, hf⟩
      · rintro ⟨f, hf⟩
        exact ⟨[f], f, hf, rfl⟩
    rw [hread, isOk_ofToken_iff]
    simp
  | arr items =>
    -- a list is read item by item, and each item has to be a token
    rw [show listOfJson (.arr items) = items.mapM ofItem from rfl, isOk_mapM_iff]
    simp only [isOk_ofItem_iff]
    simp
  | bool b => exact ⟨nofun, by simp⟩
  | num n => exact ⟨nofun, by simp⟩
  | obj fields => exact ⟨nofun, by simp⟩

theorem Overrides.isOk_ofPropertyEntries_iff {fields : List (String × Json)} {o : Overrides} :
    (∃ o', o.ofPropertyEntries fields = .ok o') ↔
      ∀ e ∈ fields, Format.Named e.1 ∧ e.2.isObject = true := by
  induction fields generalizing o with
  | nil => exact ⟨fun _ => nofun, fun _ => ⟨o, rfl⟩⟩
  | cons e rest ih =>
    obtain ⟨key, v⟩ := e
    -- the first field is read first, and a failure there ends the reading
    rw [List.forall_mem_cons, ← Format.isOk_ofToken_iff]
    simp only [ofPropertyEntries, bind_eq_ok]
    constructor
    · rintro ⟨o', format, hformat, hrest⟩
      cases v
      case obj fields => exact ⟨⟨⟨format, hformat⟩, rfl⟩, ih.mp ⟨o', hrest⟩⟩
      all_goals cases hrest
    · rintro ⟨⟨⟨format, hformat⟩, hobject⟩, hrest⟩
      cases v
      case obj fields =>
        obtain ⟨o', ho'⟩ := ih.mpr hrest
        exact ⟨o', format, hformat, ho'⟩
      all_goals cases hobject

theorem Overrides.isOk_ofProperty_iff {v : Json} :
    (∃ o, ofProperty v = .ok o) ↔ Config.WellFormed "source_transformation" v := by
  show _ ↔ v = .null ∨ ∃ fields, v = .obj fields ∧
    ∀ e ∈ (PropertyMap.ofList fields).entries, Format.Named e.1 ∧ e.2.isObject = true
  cases v with
  | null => exact ⟨fun _ => .inl rfl, fun _ => ⟨empty, rfl⟩⟩
  | obj fields =>
    rw [show ofProperty (.obj fields) =
      ofPropertyEntries empty (PropertyMap.ofList fields).entries from rfl,
      isOk_ofPropertyEntries_iff]
    simp
  | bool b => exact ⟨nofun, by simp⟩
  | num n => exact ⟨nofun, by simp⟩
  | str s => exact ⟨nofun, by simp⟩
  | arr items => exact ⟨nofun, by simp⟩

theorem Chain.isOk_ofItems_iff (index : Nat) {items : List Json} :
    (∃ steps, ofItems index items = .ok steps) ↔ ∀ item ∈ items, item.isObject = true := by
  induction items generalizing index with
  | nil => exact ⟨fun _ => nofun, fun _ => ⟨[], rfl⟩⟩
  | cons v rest ih =>
    rw [List.forall_mem_cons]
    cases v
    case obj fields =>
      simp only [ofItems, bind_eq_ok, ← ih (index + 1)]
      constructor
      · rintro ⟨steps, later, hlater, -⟩
        exact ⟨rfl, later, hlater⟩
      · rintro ⟨-, later, hlater⟩
        exact ⟨_, later, hlater, rfl⟩
    -- an item that is no object is refused at once
    all_goals exact ⟨nofun, nofun⟩

theorem Chain.isChain_iff {v : Json} : isChain v = true ↔ v.ContainsObject := by
  unfold Json.ContainsObject
  cases v with
  | obj fields => exact ⟨fun _ => .inl rfl, fun _ => rfl⟩
  | arr items =>
    rw [show isChain (.arr items) = items.any Json.isObject from rfl, List.any_eq_true]
    simp [Json.isObject]
  | _ => simp [isChain, Json.isObject]

theorem Config.isOk_chainOf_iff {v : Json} :
    (∃ steps, chainOf v = .ok steps) ↔ WellFormed "transformation" v := by
  show _ ↔ ¬ v.ContainsObject ∨ v.isObject = true ∨
    ∃ items, v = .arr items ∧ ∀ item ∈ items, item.isObject = true
  unfold chainOf
  by_cases hchain : Chain.isChain v = true
  · -- a chain is an object or a list, and of a list every item has to be an object
    have hobject : v.ContainsObject := Chain.isChain_iff.mp hchain
    rw [if_pos hchain]
    cases v with
    | obj fields => exact ⟨fun _ => .inr (.inl rfl), fun _ => ⟨_, rfl⟩⟩
    | arr items =>
      rw [show Chain.ofJson (.arr items) = Chain.ofItems 0 items from rfl, Chain.isOk_ofItems_iff]
      simp [hobject, Json.isObject]
    | _ => cases hchain
  · -- a value without an object is left alone, whatever it is
    rw [if_neg hchain]
    have hnone : ¬ v.ContainsObject := fun h => hchain (Chain.isChain_iff.mpr h)
    exact ⟨fun _ => .inl hnone, fun _ => ⟨[], rfl⟩⟩

namespace Config

theorem isOk_textOf_iff {name : String} {v : Json} :
    (∃ s, textOf name v = .ok s) ↔ ∃ s, v = .str s := by
  cases v with
  | str s => exact ⟨fun _ => ⟨s, rfl⟩, fun _ => ⟨s, rfl⟩⟩
  | _ => exact ⟨nofun, nofun⟩

theorem isOk_optionalTextOf_iff {name : String} {v : Json} :
    (∃ x, optionalTextOf name v = .ok x) ↔ v = .null ∨ ∃ s, v = .str s := by
  cases v with
  | null => exact ⟨fun _ => .inl rfl, fun _ => ⟨none, rfl⟩⟩
  | str s => exact ⟨fun _ => .inr ⟨s, rfl⟩, fun _ => ⟨some s, rfl⟩⟩
  | _ => exact ⟨nofun, by simp⟩

theorem isOk_flagOf_iff {name : String} {v : Json} :
    (∃ b, flagOf name v = .ok b) ↔ v = .null ∨ ∃ b, v = .bool b := by
  cases v with
  | null => exact ⟨fun _ => .inl rfl, fun _ => ⟨false, rfl⟩⟩
  | bool b => exact ⟨fun _ => .inr ⟨b, rfl⟩, fun _ => ⟨b, rfl⟩⟩
  | _ => exact ⟨nofun, by simp⟩

theorem isOk_resourceTypeOf_iff {name : String} {v : Json} :
    (∃ t, resourceTypeOf name v = .ok t) ↔ ∃ s, v = .str s ∧ ResourceType.Named s := by
  simp only [← ResourceType.isOk_ofToken_iff, resourceTypeOf, bind_eq_ok]
  constructor
  · rintro ⟨t, s, hs, ht⟩
    exact ⟨s, str_of_textOf hs, t, ht⟩
  · rintro ⟨s, rfl, t, ht⟩
    exact ⟨t, s, rfl, ht⟩

/-- **Each reader accepts exactly the values of its form.** -/
theorem check_eq_ok_iff (name : String) (v : Json) : check name v = .ok () ↔ WellFormed name v := by
  unfold check
  -- one case for each property that is read, and one for all others
  split
  · exact map_eq_ok_iff.trans isOk_textOf_iff
  · exact map_eq_ok_iff.trans isOk_textOf_iff
  · exact map_eq_ok_iff.trans isOk_resourceTypeOf_iff
  · exact map_eq_ok_iff.trans isOk_optionalTextOf_iff
  · exact map_eq_ok_iff.trans isOk_flagOf_iff
  · exact map_eq_ok_iff.trans Format.isOk_listOfJson_iff
  · exact map_eq_ok_iff.trans Overrides.isOk_ofProperty_iff
  · exact map_eq_ok_iff.trans isOk_chainOf_iff
  · exact map_eq_ok_iff
  · next hcloud hid hkind hformat hsecure htypes hoverrides hchain hposter =>
    unfold WellFormed
    split <;> simp_all

end Config

end VideoDelivery
