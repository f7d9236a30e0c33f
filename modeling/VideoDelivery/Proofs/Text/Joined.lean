/-!
# Texts put together from pieces

Segments, paths and the values of lists are pieces joined by a separator. Pieces without the
separator in them are read back by splitting the text, and so are pieces that are each ended by it.
The separator also decides how texts compare: where it comes before every other character of what
stands in front of it, what stands behind it does not matter.

* `parts_intercalate`, `parts_ended` — pieces are read back from the text that they make.
* `intercalate_ne_empty` — a text with something in one of its pieces is not empty.
* `notMem_intercalate` — a character in no piece and not in the separator is not in the text.
* `marked_le_iff` — **texts with a mark compare by what stands before it**.
-/

namespace VideoDelivery.Text

/-! ## Reading back -/

/-- The parts of a text between the separators. -/
def parts (separator : Char) (s : String) : List String :=
  (s.split separator).toList.map (·.copy)

section

variable {c : Char} {pieces : List String}

theorem parts_intercalate (hne : pieces ≠ []) (h : ∀ s ∈ pieces, c ∉ s.toList) :
    parts c ((String.singleton c).intercalate pieces) = pieces := by
  rw [parts, String.toList_split_intercalate h, if_neg hne]

/-- Pieces that are each ended by a separator are pieces joined by it, an empty one the last. -/
theorem join_ended (c : Char) (pieces : List String) :
    String.join (pieces.map (· ++ String.singleton c)) =
      (String.singleton c).intercalate (pieces ++ [""]) := by
  induction pieces with
  | nil => simp
  | cons s rest ih =>
    rw [List.map_cons, String.join_cons, ih, List.cons_append,
      String.intercalate_cons_of_ne_nil (by simp)]

theorem parts_ended (h : ∀ s ∈ pieces, c ∉ s.toList) :
    parts c (String.join (pieces.map (· ++ String.singleton c))) = pieces ++ [""] := by
  rw [join_ended]
  refine parts_intercalate (by simp) fun s hs => ?_
  rcases List.mem_append.mp hs with hs | hs
  · exact h s hs
  · rw [List.mem_singleton.mp hs]
    exact List.not_mem_nil

end

theorem intercalate_ne_empty {separator s : String} {pieces : List String} (hs : s ∈ pieces)
    (hne : s ≠ "") : separator.intercalate pieces ≠ "" := by
  induction pieces with
  | nil => cases hs
  | cons t rest ih =>
    cases rest with
    | nil =>
      rw [String.intercalate_singleton]
      rwa [← List.mem_singleton.mp hs]
    | cons u more =>
      rw [String.intercalate_cons_cons]
      rcases List.mem_cons.mp hs with rfl | hs
      · simp [hne]
      · simp [ih hs]

theorem notMem_intercalate {c : Char} {separator : String} {pieces : List String}
    (hseparator : c ∉ separator.toList) (h : ∀ s ∈ pieces, c ∉ s.toList) :
    c ∉ (separator.intercalate pieces).toList := by
  induction pieces with
  | nil => simp
  | cons s rest ih =>
    obtain ⟨hs, hrest⟩ := List.forall_mem_cons.mp h
    cases rest with
    | nil => simpa using hs
    | cons t more =>
      rw [String.intercalate_cons_cons]
      simpa [hs, hseparator] using ih hrest

/-! ## Order -/

theorem marked_lt_of_lt {mark : Char} {a b : List Char} (hb : ∀ c ∈ b, mark < c) (h : a < b)
    (v w : List Char) : a ++ mark :: v < b ++ mark :: w := by
  -- along the first place where the two differ
  induction h with
  | nil =>
    -- the first one has ended, so its mark meets a character of the second one
    exact .rel (hb _ (List.mem_cons_self ..))
  | cons _ ih => exact .cons (ih fun c hc => hb c (List.mem_cons_of_mem _ hc))
  | rel hlt => exact .rel hlt

/-- **Texts with a mark compare by what stands before it**, if that differs and the mark comes
before every character of it. -/
theorem marked_le_iff {mark : Char} {a b : String} (ha : ∀ c ∈ a.toList, mark < c)
    (hb : ∀ c ∈ b.toList, mark < c) (hne : a ≠ b) (v w : String) :
    a ++ String.singleton mark ++ v ≤ b ++ String.singleton mark ++ w ↔ a ≤ b := by
  have hlt : ∀ {a b : String}, (∀ c ∈ b.toList, mark < c) → a < b → ∀ v w : String,
      a ++ String.singleton mark ++ v < b ++ String.singleton mark ++ w := by
    intro a b hb hab v w
    rw [String.lt_iff]
    simpa using marked_lt_of_lt hb hab v.toList w.toList
  rcases String.le_total a b with hle | hle
  · refine iff_of_true ?_ hle
    have hab : a < b := String.not_le.mp fun hba => hne (String.le_antisymm hle hba)
    exact String.not_lt.mp (String.lt_asymm (hlt hb hab v w))
  · have hba : b < a := String.not_le.mp fun hab => hne (String.le_antisymm hab hle)
    refine iff_of_false ?_ (String.not_le.mpr hba)
    exact String.not_le.mpr (hlt ha hba w v)

end VideoDelivery.Text
