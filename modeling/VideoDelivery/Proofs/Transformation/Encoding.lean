import VideoDelivery.Proofs.Json.NumberText
import VideoDelivery.Proofs.Property.Mentions
import VideoDelivery.Proofs.Text.Joined
import VideoDelivery.Transformation.Token

/-!
# What becomes a token

Whether a parameter has a token is decided by its name and by the kind of its value. The raw
parameter takes a string, and a coded one a scalar or a list with a scalar among its elements; empty
strings never count. A token that there is always says something, and it says it in a form that
stands for itself: the text of the value, given as a string, is encoded to the same token.

* `Token.isSome_valueText?_iff` — which values have a text; how lists are joined plays no part in
  it.
* `Token.ofParameter?_eq_some_iff` — **what a token comes from**, in any spelling of the name.
* `Token.encodes_stably` — **which parameters have a token**, and that encoding its text again
  changes nothing.
-/

namespace VideoDelivery

/-! ## Values -/

namespace Json

/-- A scalar with a text: a number, a boolean or a string with something in it. -/
def IsWritten : Json → Prop
  | .num _ | .bool _ => True
  | .str s => s ≠ ""
  | .null | .arr _ | .obj _ => False

/-- A value with a text: such a scalar, or a list with one among its elements. -/
def HasText : Json → Prop
  | .arr elements => ∃ v ∈ elements, v.IsWritten
  | v => v.IsWritten

end Json

namespace Token

theorem isSome_scalarText?_iff {v : Json} : (scalarText? v).isSome = true ↔ v.IsWritten := by
  cases v with
  | null | num n | arr items | obj fields => simp [scalarText?, Json.IsWritten]
  | bool b => cases b <;> simp [scalarText?, Json.IsWritten]
  | str s => by_cases h : s = "" <;> simp [scalarText?, Json.IsWritten, h]

theorem exists_scalarText?_iff {v : Json} : (∃ t, scalarText? v = some t) ↔ v.IsWritten := by
  rw [← Option.isSome_iff_exists, isSome_scalarText?_iff]

theorem scalarText?_str {t : String} (h : t ≠ "") : scalarText? (.str t) = some t := by
  rw [scalarText?, if_neg h]

theorem ne_empty_of_scalarText? {v : Json} {t : String} (h : scalarText? v = some t) : t ≠ "" := by
  cases v with
  | null | arr items | obj fields => cases h
  | bool b => cases b <;> cases h <;> decide
  | num n =>
    rw [← Option.some.inj h]
    exact n.text_ne_empty
  | str s =>
    by_cases hempty : s = ""
    · -- an empty string has no text
      rw [scalarText?, if_pos hempty] at h
      cases h
    · rw [scalarText?_str hempty] at h
      rwa [← Option.some.inj h]

/-! ## Lists -/

section

variable {join : Join} {elements : List Json}

theorem mem_pieces {v : Json} {t : String} (hv : v ∈ elements) (ht : scalarText? v = some t) :
    t ∈ pieces join elements := by
  have htexts : some t ∈ elements.map scalarText? := List.mem_map.mpr ⟨v, hv, ht⟩
  unfold pieces
  dsimp only
  -- a text is kept, whether or not the elements without one keep their place
  split
  · exact List.mem_map.mpr ⟨some t, htexts, rfl⟩
  · exact List.mem_filterMap.mpr ⟨some t, htexts, rfl⟩

theorem valueText?_arr (h : ∃ v ∈ elements, v.IsWritten) (join : Join) :
    valueText? join (.arr elements) =
      some (join.separator.intercalate (pieces join elements)) := by
  obtain ⟨v, hv, hwritten⟩ := h
  rw [valueText?, if_neg]
  intro hall
  have hnone := List.all_eq_true.mp hall v hv
  have hsome := isSome_scalarText?_iff.mpr hwritten
  rw [Option.isNone_iff_eq_none.mp hnone] at hsome
  cases hsome

theorem valueText?_arr_eq_none (h : ¬ ∃ v ∈ elements, v.IsWritten) (join : Join) :
    valueText? join (.arr elements) = none := by
  rw [valueText?, if_pos]
  rw [List.all_eq_true]
  intro v hv
  rw [Option.isNone_iff_eq_none, ← Option.not_isSome_iff_eq_none, isSome_scalarText?_iff]
  exact fun hwritten => h ⟨v, hv, hwritten⟩

end

/-- Which values have a text does not depend on how lists are joined. -/
theorem isSome_valueText?_iff {join : Join} {v : Json} :
    (valueText? join v).isSome = true ↔ v.HasText := by
  cases v with
  | null | bool b | num n | str s | obj fields =>
    simp only [valueText?, Json.HasText, isSome_scalarText?_iff]
  | arr elements =>
    by_cases h : ∃ v ∈ elements, v.IsWritten
    · simp [valueText?_arr h join, Json.HasText, h]
    · simp [valueText?_arr_eq_none h join, Json.HasText, h]

theorem exists_valueText?_iff {join : Join} {v : Json} :
    (∃ t, valueText? join v = some t) ↔ v.HasText := by
  rw [← Option.isSome_iff_exists, isSome_valueText?_iff]

theorem ne_empty_of_valueText? {join : Join} {v : Json} {t : String}
    (h : valueText? join v = some t) : t ≠ "" := by
  cases v with
  | null | bool b | num n | str s | obj fields =>
    simp only [valueText?] at h
    exact ne_empty_of_scalarText? h
  | arr elements =>
    have hwritten : ∃ v ∈ elements, v.IsWritten := exists_valueText?_iff.mp ⟨t, h⟩
    rw [valueText?_arr hwritten] at h
    -- the text of an element is one of the pieces
    obtain ⟨v, hv, hscalar⟩ := hwritten
    obtain ⟨piece, hpiece⟩ := exists_scalarText?_iff.mpr hscalar
    rw [← Option.some.inj h]
    exact Text.intercalate_ne_empty (mem_pieces hv hpiece) (ne_empty_of_scalarText? hpiece)

/-- The text of a raw parameter: a string with something in it. -/
def rawText? : Json → Option String
  | .str s => if s = "" then none else some s
  | _ => none

theorem rawText?_eq_some_iff {v : Json} {s : String} :
    rawText? v = some s ↔ v = .str s ∧ s ≠ "" := by
  cases v with
  | null | bool b | num n | arr items | obj fields => simp [rawText?]
  | str t =>
    by_cases ht : t = ""
    · simp only [rawText?, if_pos ht, Json.str.injEq]
      exact ⟨nofun, fun h => absurd (h.1 ▸ ht) h.2⟩
    · simp only [rawText?, if_neg ht, Option.some.injEq, Json.str.injEq]
      exact ⟨fun h => ⟨h, h ▸ ht⟩, And.left⟩

end Token

/-! ## Names -/

namespace Parameter

theorem find?_eq_some {p : Parameter} (hp : p ∈ all) {name : String}
    (h : Name.fold name = Name.fold p.name) : find? name = some p := by
  have htable : ∀ p ∈ all, find? p.name = some p := by decide +kernel
  rw [find?_congr h, htable p hp]

theorem isRaw_eq_false {p : Parameter} (hp : p ∈ all) {name : String}
    (h : Name.fold name = Name.fold p.name) : isRaw name = false := by
  have htable : ∀ p ∈ all, isRaw p.name = false := by decide +kernel
  rw [isRaw, h]
  exact htable p hp

end Parameter

namespace Token

theorem ofParameter?_coded {p : Parameter} (hp : p ∈ Parameter.all) {name : String}
    (h : Name.fold name = Name.fold p.name) (v : Json) :
    ofParameter? name v = (valueText? p.join v).map (coded p.code) := by
  simp only [ofParameter?, encode, Parameter.isRaw_eq_false hp h, Parameter.find?_eq_some hp h]
  cases valueText? p.join v <;> rfl

theorem ofParameter?_raw {name : String} (h : Name.fold name = Name.fold Parameter.rawName)
    (v : Json) : ofParameter? name v = (rawText? v).map raw := by
  have hraw : Parameter.isRaw name = true := decide_eq_true h
  simp only [ofParameter?, encode, hraw, if_true]
  cases v with
  | null | bool b | num n | arr items | obj fields => rfl
  | str s => by_cases hs : s = "" <;> simp [rawText?, hs, Except.toOption]

theorem ofParameter?_of_unknown {name : String}
    (h : ∀ k ∈ Parameter.names, Name.fold name ≠ Name.fold k) (v : Json) :
    ofParameter? name v = none := by
  have hname := Parameter.canonicalName?_eq_none_iff.mpr h
  unfold Parameter.canonicalName? at hname
  split at hname
  · cases hname
  next hraw =>
    have hfind := Option.map_eq_none_iff.mp hname
    simp [ofParameter?, encode, hraw, hfind, Except.toOption]

/-- **What a token comes from**: a string under a spelling of the raw parameter, or a value with a
text under a spelling of a coded one. -/
theorem ofParameter?_eq_some_iff {name : String} {v : Json} {t : Token} :
    ofParameter? name v = some t ↔
      (Name.fold name = Name.fold Parameter.rawName ∧ ∃ s, rawText? v = some s ∧ t = .raw s) ∨
      ∃ p ∈ Parameter.all, Name.fold name = Name.fold p.name ∧
        ∃ text, valueText? p.join v = some text ∧ t = .coded p.code text := by
  constructor
  · intro h
    by_cases hname : ∃ k ∈ Parameter.names, Name.fold name = Name.fold k
    · obtain ⟨k, hk, hfold⟩ := hname
      rcases List.mem_cons.mp hk with rfl | hk
      · rw [ofParameter?_raw hfold] at h
        obtain ⟨s, hs, rfl⟩ := Option.map_eq_some_iff.mp h
        exact .inl ⟨hfold, s, hs, rfl⟩
      · obtain ⟨p, hp, rfl⟩ := List.mem_map.mp hk
        rw [ofParameter?_coded hp hfold] at h
        obtain ⟨text, htext, rfl⟩ := Option.map_eq_some_iff.mp h
        exact .inr ⟨p, hp, hfold, text, htext, rfl⟩
    · rw [ofParameter?_of_unknown fun k hk hfold => hname ⟨k, hk, hfold⟩] at h
      cases h
  · rintro (⟨hfold, s, hs, rfl⟩ | ⟨p, hp, hfold, text, htext, rfl⟩)
    · rw [ofParameter?_raw hfold, hs, Option.map_some]
    · rw [ofParameter?_coded hp hfold, htext, Option.map_some]

/-! ## Tokens -/

/-- What a token says of its parameter: the text of the value, or the raw text. -/
def value : Token → String
  | .coded _ value => value
  | .raw text => text

theorem value_ne_empty {name : String} {v : Json} {t : Token} (h : ofParameter? name v = some t) :
    t.value ≠ "" := by
  rcases ofParameter?_eq_some_iff.mp h with ⟨-, s, hs, rfl⟩ | ⟨p, -, -, text, htext, rfl⟩
  · exact (rawText?_eq_some_iff.mp hs).2
  · exact ne_empty_of_valueText? htext

theorem text_ne_empty {name : String} {v : Json} {t : Token} (h : ofParameter? name v = some t) :
    t.text ≠ "" := by
  cases t with
  | coded code value => simp [text]
  | raw text => exact value_ne_empty h

theorem exists_ofParameter?_iff {name : String} {v : Json} :
    (∃ t, ofParameter? name v = some t) ↔
      (Name.fold name = Name.fold Parameter.rawName ∧ ∃ s, v = .str s ∧ s ≠ "") ∨
      (∃ p ∈ Parameter.all, Name.fold name = Name.fold p.name) ∧ v.HasText := by
  constructor
  · rintro ⟨t, h⟩
    rcases ofParameter?_eq_some_iff.mp h with ⟨hfold, s, hs, -⟩ | ⟨p, hp, hfold, text, htext, -⟩
    · exact .inl ⟨hfold, s, rawText?_eq_some_iff.mp hs⟩
    · exact .inr ⟨⟨p, hp, hfold⟩, exists_valueText?_iff.mp ⟨text, htext⟩⟩
  · rintro (⟨hfold, s, hs⟩ | ⟨⟨p, hp, hfold⟩, hhas⟩)
    · have htext := rawText?_eq_some_iff.mpr hs
      exact ⟨.raw s, ofParameter?_eq_some_iff.mpr (.inl ⟨hfold, s, htext, rfl⟩)⟩
    · obtain ⟨text, htext⟩ : ∃ text, valueText? p.join v = some text :=
        exists_valueText?_iff.mpr hhas
      exact ⟨.coded p.code text, ofParameter?_eq_some_iff.mpr
        (.inr ⟨p, hp, hfold, text, htext, rfl⟩)⟩

/-- A token is encoded again from what it says. -/
theorem ofParameter?_value {name spelling : String} {v : Json} {t : Token}
    (h : ofParameter? name v = some t) (hspelling : Name.fold spelling = Name.fold name) :
    ofParameter? spelling (.str t.value) = some t := by
  have hne := value_ne_empty h
  rcases ofParameter?_eq_some_iff.mp h with ⟨hfold, s, -, rfl⟩ | ⟨p, hp, hfold, text, -, rfl⟩
  · have htext : rawText? (.str s) = some s := rawText?_eq_some_iff.mpr ⟨rfl, hne⟩
    exact ofParameter?_eq_some_iff.mpr (.inl ⟨hspelling.trans hfold, s, htext, rfl⟩)
  · -- a string is written as it is, whatever the value was that the text comes from
    have htext : valueText? p.join (.str text) = some text := scalarText?_str hne
    exact ofParameter?_eq_some_iff.mpr
      (.inr ⟨p, hp, hspelling.trans hfold, text, htext, rfl⟩)

/-- **Which parameters have a token, and that it stands for itself.** There is a token exactly for a
string with something in it under a spelling of the raw parameter, and under a spelling of any other
parameter for a number, a boolean, such a string, or a list with one of these among its elements.
What it says is never empty, and encoding that as a string gives the same token, under every
spelling of the name. -/
theorem encodes_stably (name : String) (v : Json) :
    ((∃ t, ofParameter? name v = some t) ↔
      (Name.fold name = Name.fold Parameter.rawName ∧ ∃ s, v = .str s ∧ s ≠ "") ∨
      (∃ p ∈ Parameter.all, Name.fold name = Name.fold p.name) ∧ v.HasText) ∧
    ∀ t, ofParameter? name v = some t →
      t.value ≠ "" ∧ t.text ≠ "" ∧
      ∀ spelling, Name.fold spelling = Name.fold name →
        ofParameter? spelling (.str t.value) = some t :=
  ⟨exists_ofParameter?_iff, fun _ h =>
    ⟨value_ne_empty h, text_ne_empty h, fun _ => ofParameter?_value h⟩⟩

/-- A range with an open end is encoded again from its text. -/
example : ofParameter? "endOffset" (.arr [.bool true, .null]) = some (.coded "eo" "true-") ∧
    ofParameter? "END_OFFSET" (.str "true-") = some (.coded "eo" "true-") := by
  decide +kernel

end Token

end VideoDelivery
