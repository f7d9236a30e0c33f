import VideoDelivery.Text.Blank

/-!
# What trimming leaves

Trimming takes the blanks away from both ends of a text and nothing else. What is left is the one
part of the text with blanks only before and behind it and with no blank at either end of its own.

* `dropWhile_blanks` — dropping stops at the first character that is no blank.
* `trim_eq_iff` — **what trimming leaves**, said without the way it is done.
-/

namespace VideoDelivery.Text

/-! ## One end -/

/-- Blanks in front are dropped, up to a character that is none. -/
theorem dropWhile_blanks {blanks rest : List Char} (hblanks : ∀ c ∈ blanks, isBlank c = true)
    (hrest : ∀ c, rest.head? = some c → isBlank c = false) :
    (blanks ++ rest).dropWhile isBlank = rest := by
  rw [List.dropWhile_append_of_pos hblanks]
  cases rest with
  | nil => rfl
  | cons c more => rw [List.dropWhile_cons_of_neg (Bool.eq_false_iff.mp (hrest c rfl))]

theorem head?_dropWhile_blanks {cs : List Char} {c : Char}
    (h : (cs.dropWhile isBlank).head? = some c) : isBlank c = false := by
  have hfirst := List.head?_dropWhile_not isBlank cs
  rw [h] at hfirst
  exact hfirst

theorem forall_takeWhile_blanks (cs : List Char) : ∀ c ∈ cs.takeWhile isBlank, isBlank c = true :=
  List.all_eq_true.mp List.all_takeWhile

/-! ## Both ends -/

/-- The characters are those of the first list, with blanks only before and behind and with no blank
at either end. -/
structure TrimsTo (cs kept : List Char) : Prop where
  around : ∃ before after, cs = before ++ kept ++ after ∧ (∀ c ∈ before, isBlank c = true) ∧
    ∀ c ∈ after, isBlank c = true
  first : ∀ c, kept.head? = some c → isBlank c = false
  last : ∀ c, kept.getLast? = some c → isBlank c = false

/-- What is left in front is what is kept and the blanks behind it. -/
theorem dropWhile_eq_trimBlanks (cs : List Char) : ∃ after, (∀ c ∈ after, isBlank c = true) ∧
    cs.dropWhile isBlank = trimBlanks cs ++ after := by
  refine ⟨((cs.dropWhile isBlank).reverse.takeWhile isBlank).reverse, ?_, ?_⟩
  · intro c hc
    exact forall_takeWhile_blanks _ c (List.mem_reverse.mp hc)
  · rw [trimBlanks, ← List.reverse_append, List.takeWhile_append_dropWhile, List.reverse_reverse]

theorem trimsTo_trimBlanks (cs : List Char) : TrimsTo cs (trimBlanks cs) := by
  obtain ⟨after, hafter, hsplit⟩ := dropWhile_eq_trimBlanks cs
  refine ⟨⟨cs.takeWhile isBlank, after, ?_, forall_takeWhile_blanks cs, hafter⟩, ?_, ?_⟩
  · rw [List.append_assoc, ← hsplit, List.takeWhile_append_dropWhile]
  · intro c hc
    have hhead : (cs.dropWhile isBlank).head? = some c := by
      rw [hsplit, List.head?_append, hc, Option.some_or]
    exact head?_dropWhile_blanks hhead
  · intro c hc
    rw [trimBlanks, List.getLast?_reverse] at hc
    exact head?_dropWhile_blanks hc

theorem TrimsTo.eq {cs kept : List Char} (h : TrimsTo cs kept) : trimBlanks cs = kept := by
  obtain ⟨⟨before, after, rfl, hbefore, hafter⟩, hfirst, hlast⟩ := h
  cases kept with
  | nil =>
    rw [List.append_nil, trimBlanks_eq_nil_iff]
    exact List.forall_mem_append.mpr ⟨hbefore, hafter⟩
  | cons c more =>
    have hfront : (before ++ (c :: more) ++ after).dropWhile isBlank = (c :: more) ++ after := by
      rw [List.append_assoc]
      refine dropWhile_blanks hbefore fun d hd => hfirst d ?_
      rwa [List.cons_append] at hd
    have hback : ((c :: more) ++ after).reverse.dropWhile isBlank = (c :: more).reverse := by
      rw [List.reverse_append]
      refine dropWhile_blanks (fun d hd => hafter d (List.mem_reverse.mp hd)) fun d hd => ?_
      exact hlast d (List.head?_reverse ▸ hd)
    rw [trimBlanks, hfront, hback, List.reverse_reverse]

/-- **What trimming leaves** of a text is the part that has only blanks around it, and no blank at
its own ends. -/
theorem trim_eq_iff {s t : String} : trim s = t ↔ TrimsTo s.toList t.toList := by
  rw [← String.toList_inj, trim, String.toList_ofList]
  constructor
  · intro h
    rw [← h]
    exact trimsTo_trimBlanks s.toList
  · exact TrimsTo.eq

end VideoDelivery.Text
