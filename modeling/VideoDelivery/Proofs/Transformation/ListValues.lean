import VideoDelivery.Proofs.Transformation.Encoding

/-!
# Lists read back from their tokens

The value of a list is its elements' texts joined by the separator of the parameter. As long as no
text has the separator in it, splitting the value gives the texts back. A range keeps the place of
an element without a text, as an empty part, so that an open end at either side or in the middle
stays where it was; everywhere else such elements leave no trace.

* `Parameter.join_eq_range_iff` — the parameters whose lists are ranges.
* `Token.pieces_eq_of_range`, `Token.pieces_eq_of_ne_range` — what is joined.
* `Token.lists_read_back` — **the elements are read back from the token**.
-/

namespace VideoDelivery

/-- What stands between two joined elements, as a character. -/
def Join.mark : Join → Char
  | .range => '-'
  | .dot => '.'
  | .colon => ':'
  | .comma => ','

theorem Join.separator_eq (join : Join) : join.separator = String.singleton join.mark := by
  cases join <;> rfl

namespace Parameter

/-- The parameters whose lists are ranges. -/
def rangeNames : List String := ["duration", "end_offset", "fps", "start_offset"]

theorem join_eq_range_iff : ∀ p ∈ all, p.join = .range ↔ p.name ∈ rangeNames := by
  decide +kernel

end Parameter

namespace Token

/-- What stands for an element in a range: its text, or nothing. -/
def slot (v : Json) : String := (scalarText? v).getD ""

theorem slot_eq_empty_iff {v : Json} : slot v = "" ↔ ¬ v.IsWritten := by
  rw [← isSome_scalarText?_iff, slot]
  cases htext : scalarText? v with
  | none => simp
  | some t => simpa using ne_empty_of_scalarText? htext

/-! ## Pieces -/

variable {join : Join} {elements : List Json}

theorem pieces_eq_of_range (elements : List Json) :
    pieces .range elements = elements.map slot := by
  rw [pieces, if_pos rfl, List.map_map]
  rfl

theorem pieces_eq_of_ne_range (h : join ≠ .range) (elements : List Json) :
    pieces join elements = elements.filterMap scalarText? := by
  rw [pieces, if_neg h, List.filterMap_map]
  rfl

theorem pieces_ne_nil (h : ∃ v ∈ elements, v.IsWritten) : pieces join elements ≠ [] := by
  obtain ⟨v, hv, hwritten⟩ := h
  obtain ⟨t, ht⟩ := exists_scalarText?_iff.mpr hwritten
  exact List.ne_nil_of_mem (mem_pieces hv ht)

/-- No element has the character in its text. -/
def FreeOf (c : Char) (elements : List Json) : Prop :=
  ∀ t ∈ elements.filterMap scalarText?, c ∉ t.toList

instance (c : Char) (elements : List Json) : Decidable (FreeOf c elements) :=
  inferInstanceAs (Decidable (∀ t ∈ elements.filterMap scalarText?, c ∉ t.toList))

/-- A piece is the text of an element, or stands empty for one without a text. -/
theorem FreeOf.notMem_piece {c : Char} (h : FreeOf c elements) {s : String}
    (hs : s ∈ pieces join elements) : c ∉ s.toList := by
  by_cases hrange : join = .range
  · subst hrange
    rw [pieces_eq_of_range] at hs
    obtain ⟨v, hv, rfl⟩ := List.mem_map.mp hs
    cases htext : scalarText? v with
    | none => simp [slot, htext]
    | some t => simpa [slot, htext] using h t (List.mem_filterMap.mpr ⟨v, hv, htext⟩)
  · rw [pieces_eq_of_ne_range hrange] at hs
    exact h s hs

theorem parts_joined (hwritten : ∃ v ∈ elements, v.IsWritten) (hfree : FreeOf join.mark elements) :
    Text.parts join.mark (join.separator.intercalate (pieces join elements)) =
      pieces join elements := by
  rw [join.separator_eq]
  exact Text.parts_intercalate (pieces_ne_nil hwritten) fun _ => hfree.notMem_piece

/-! ## Reading back -/

/-- **Lists are read back from their tokens.** A list with at least one scalar that has a text is
encoded under every spelling of a coded parameter, and splitting the value gives its elements back,
provided that none of their texts has the separator in it. Of a range there is one part for each
element, its text or, if it has none, nothing; of any other list there are the texts of the elements
that have one, and no empty part. -/
theorem lists_read_back {p : Parameter} (hp : p ∈ Parameter.all) {name : String}
    (hname : Name.fold name = Name.fold p.name) (hwritten : ∃ v ∈ elements, v.IsWritten) :
    ∃ value, ofParameter? name (.arr elements) = some (.coded p.code value) ∧
      (p.name ∈ Parameter.rangeNames → FreeOf '-' elements →
        Text.parts '-' value = elements.map slot ∧
        ∀ v ∈ elements, slot v = "" ↔ ¬ v.IsWritten) ∧
      (p.name ∉ Parameter.rangeNames → FreeOf p.join.mark elements →
        Text.parts p.join.mark value = elements.filterMap scalarText? ∧
        (∀ v ∈ elements, (scalarText? v).isSome = true ↔ v.IsWritten) ∧
        "" ∉ elements.filterMap scalarText?) := by
  refine ⟨p.join.separator.intercalate (pieces p.join elements), ?_, ?_, ?_⟩
  · rw [ofParameter?_coded hp hname, valueText?_arr hwritten, Option.map_some]
  · intro hrange hfree
    have hjoin : p.join = .range := (Parameter.join_eq_range_iff p hp).mpr hrange
    rw [hjoin]
    refine ⟨?_, fun _ _ => slot_eq_empty_iff⟩
    rw [← pieces_eq_of_range]
    exact parts_joined hwritten hfree
  · intro hrange hfree
    have hjoin : p.join ≠ .range := fun h => hrange ((Parameter.join_eq_range_iff p hp).mp h)
    refine ⟨?_, fun _ _ => isSome_scalarText?_iff, ?_⟩
    · rw [← pieces_eq_of_ne_range hjoin]
      exact parts_joined hwritten hfree
    · intro hempty
      obtain ⟨v, -, htext⟩ := List.mem_filterMap.mp hempty
      exact ne_empty_of_scalarText? htext rfl

/-- A range that is open at the start and at the end, and a list of flags with the same gaps. -/
theorem lists_read_back_open :
    (∃ value, ofParameter? "startOffset" (.arr [.null, .ofNat 5, .str "", .bool true, .obj []]) =
        some (.coded "so" value) ∧
      Text.parts '-' value = ["", "5", "", "true", ""]) ∧
    ∃ value, ofParameter? "flags" (.arr [.null, .ofNat 5, .str "", .bool true, .obj []]) =
        some (.coded "fl" value) ∧
      Text.parts '.' value = ["5", "true"] := by
  have hwritten : ∃ v ∈ [.null, .ofNat 5, .str "", .bool true, .obj []], Json.IsWritten v :=
    ⟨.bool true, by simp, trivial⟩
  have hrangeName : Name.fold "startOffset" = Name.fold "start_offset" := by decide +kernel
  constructor
  · obtain ⟨value, htoken, hrange, -⟩ := lists_read_back (p := ⟨"start_offset", "so", .range⟩)
      (by decide) hrangeName hwritten
    exact ⟨value, htoken, (hrange (by decide) (by decide +kernel)).1⟩
  · obtain ⟨value, htoken, -, hlist⟩ := lists_read_back (p := ⟨"flags", "fl", .dot⟩)
      (by decide) rfl hwritten
    exact ⟨value, htoken, (hlist (by decide) (by decide +kernel)).1⟩

end Token

end VideoDelivery
