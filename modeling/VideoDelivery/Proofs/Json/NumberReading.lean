import VideoDelivery.Proofs.Json.Reading
import VideoDelivery.Proofs.Outcome
import Mathlib.Data.List.TakeWhile

/-!
# Numbers that are read back

A number goes on as long as its characters do, so what follows it decides where it ends. After a
comma or at the end of a line it ends as it does at the end of the text.

* `readsTo_number_append` — **a number is read alike whatever follows it**.
* `readsTo_int` — **an integer is read back**.
-/

namespace VideoDelivery.Json

/-! ## What follows a number -/

theorem not_isDigit_of_follows {after : List Char} (h : Follows after) :
    ∀ c ∈ after.head?, c.isDigit = false := by
  intro c hc
  rcases h c hc with rfl | rfl
  · rfl
  · rfl

/-- What follows a number is no part of its digits. -/
theorem takeWhile_append_of_follows {after : List Char} (h : Follows after) (text : List Char) :
    (text ++ after).takeWhile Char.isDigit = text.takeWhile Char.isDigit := by
  induction text with
  | nil =>
    cases after with
    | nil => rfl
    | cons c rest =>
      rw [List.nil_append, List.takeWhile_cons, not_isDigit_of_follows h c rfl]
      rfl
  | cons c rest ih => rw [List.cons_append, List.takeWhile_cons, List.takeWhile_cons, ih]

theorem afterDigits_append_of_follows {after : List Char} (h : Follows after) (text : List Char) :
    afterDigits (text ++ after) = afterDigits text ++ after := by
  unfold afterDigits
  induction text with
  | nil =>
    cases after with
    | nil => rfl
    | cons c rest =>
      rw [List.nil_append, List.dropWhile_cons, not_isDigit_of_follows h c rfl]
      rfl
  | cons c rest ih =>
    rw [List.cons_append, List.dropWhile_cons, List.dropWhile_cons, ih]
    split
    · rfl
    · rfl

/-- A part of a number is read as `n` and leaves `rest`. -/
def Ends {text : List Char}
    (x : Except Fault { r : Number × List Char // r.2.length ≤ text.length }) (n : Number)
    (rest : List Char) : Prop :=
  ∃ r, x = .ok r ∧ r.1 = (n, rest)

theorem exponentSign_append {text : List Char} (h : text ≠ []) (after : List Char) :
    exponentSign (text ++ after) = ((exponentSign text).1, (exponentSign text).2 ++ after) := by
  cases text with
  | nil => exact absurd rfl h
  | cons c rest =>
    rw [List.cons_append]
    by_cases hplus : c = '+'
    · subst hplus
      rfl
    by_cases hminus : c = '-'
    · subst hminus
      rfl
    have hnone : ∀ tail, exponentSign (c :: tail) = (true, c :: tail) := by
      intro tail
      unfold exponentSign
      split
      next h => exact absurd (List.cons.inj h).1 hplus
      next h => exact absurd (List.cons.inj h).1 hminus
      next => rfl
    rw [hnone, hnone]
    rfl

section

variable {negative : Bool} {d : Digits} {text after rest : List Char} {n : Number}

/-- A number that is worked out leaves what it was told to leave. -/
theorem ends_pure {x : Except Fault Number} {left : List Char} (h : left.length ≤ text.length) :
    Ends (x >>= fun m => pure ⟨(m, left), h⟩ :
      Except Fault { r : Number × List Char // r.2.length ≤ text.length }) n rest ↔
      x = .ok n ∧ rest = left := by
  unfold Ends
  simp only [bind_eq_ok]
  constructor
  · rintro ⟨r, ⟨m, hm, hr⟩, hends⟩
    obtain rfl := Except.ok.inj hr
    obtain ⟨rfl, rfl⟩ := Prod.mk.inj hends
    exact ⟨hm, rfl⟩
  · rintro ⟨hm, rfl⟩
    exact ⟨_, ⟨n, hm, rfl⟩, rfl⟩

/-- A part that is read within a longer text is read all the same. -/
theorem ends_within {longer : List Char}
    {x : Except Fault { r : Number × List Char // r.2.length ≤ text.length }}
    (h : ∀ r : { r : Number × List Char // r.2.length ≤ text.length },
      r.1.2.length ≤ longer.length) :
    Ends (x >>= fun r => pure ⟨r.1, h r⟩ :
      Except Fault { r : Number × List Char // r.2.length ≤ longer.length }) n rest ↔
      Ends x n rest := by
  unfold Ends
  simp only [bind_eq_ok]
  constructor
  · rintro ⟨r, ⟨q, hq, hr⟩, hends⟩
    obtain rfl := Except.ok.inj hr
    exact ⟨q, hq, hends⟩
  · rintro ⟨q, hq, hends⟩
    exact ⟨_, ⟨q, hq, rfl⟩, hends⟩

theorem not_ends_stop (fault : SyntaxFault) :
    ¬ Ends (stop fault : Except Fault { r : Number × List Char // r.2.length ≤ text.length })
      n rest := by
  rintro ⟨r, hr, -⟩
  cases hr

theorem ends_exponentPart :
    Ends (exponentPart negative d text) n rest ↔
      ((exponentSign text).2.takeWhile Char.isDigit).isEmpty = false ∧
        scaled negative d (exponentSign text).1
          (natOfDigits ((exponentSign text).2.takeWhile Char.isDigit)) = .ok n ∧
        rest = afterDigits (exponentSign text).2 := by
  unfold exponentPart
  by_cases hdigits : ((exponentSign text).2.takeWhile Char.isDigit).isEmpty = true
  · -- an exponent without digits is refused
    simp [hdigits, not_ends_stop]
  · rw [if_neg hdigits, Bool.eq_false_iff.mpr hdigits, eq_self, true_and]
    exact ends_pure (Nat.le_trans (afterDigits_length_le _) (exponentSign_length_le text))

theorem ends_fractionEnd_plain (h : ∀ c ∈ text.head?, c ≠ 'e' ∧ c ≠ 'E') :
    Ends (fractionEnd negative d text) n rest ↔
      scaled negative d true 0 = .ok n ∧ rest = text := by
  unfold fractionEnd
  cases text with
  | nil => exact ends_pure (Nat.le_refl _)
  | cons c tail =>
    have hneither : ¬ (c = 'e' ∨ c = 'E') := not_or.mpr (h c rfl)
    dsimp only
    rw [if_neg hneither]
    exact ends_pure (Nat.le_refl _)

theorem ends_fractionEnd_exponent {c : Char} (hc : c = 'e' ∨ c = 'E') :
    Ends (fractionEnd negative d (c :: text)) n rest ↔
      Ends (exponentPart negative d text) n rest := by
  unfold fractionEnd
  dsimp only
  rw [if_pos hc]
  exact ends_within _

theorem ends_wholeEnd_plain (h : ∀ c ∈ text.head?, c ≠ '.' ∧ c ≠ 'e' ∧ c ≠ 'E') :
    Ends (wholeEnd negative d text) n rest ↔ wholeNumber negative d = .ok n ∧ rest = text := by
  unfold wholeEnd
  cases text with
  | nil => exact ends_pure (Nat.le_refl _)
  | cons c tail =>
    obtain ⟨hpoint, hletters⟩ := h c rfl
    have hneither : ¬ (c = 'e' ∨ c = 'E') := not_or.mpr hletters
    dsimp only
    rw [if_neg hpoint, if_neg hneither]
    exact ends_pure (Nat.le_refl _)

theorem ends_wholeEnd_exponent {c : Char} (hc : c = 'e' ∨ c = 'E') :
    Ends (wholeEnd negative d (c :: text)) n rest ↔
      Ends (exponentPart negative d text) n rest := by
  have hpoint : c ≠ '.' := by
    rintro rfl
    exact absurd hc (by decide)
  unfold wholeEnd
  dsimp only
  rw [if_neg hpoint, if_pos hc]
  exact ends_within _

theorem ends_wholeEnd_point :
    Ends (wholeEnd negative d ('.' :: text)) n rest ↔
      (text.takeWhile Char.isDigit).isEmpty = false ∧
        Ends (fractionEnd negative
          ((text.takeWhile Char.isDigit).foldl Digits.addFraction { d with full := false })
          (afterDigits text)) n rest := by
  unfold wholeEnd
  dsimp only
  rw [if_pos rfl]
  by_cases hdigits : (text.takeWhile Char.isDigit).isEmpty = true
  · -- so is a fraction without digits
    simp [hdigits, not_ends_stop]
  · rw [if_neg hdigits, Bool.eq_false_iff.mpr hdigits, eq_self, true_and]
    exact ends_within _

/-- What follows a number is left where its exponent ends. -/
theorem Ends.exponentPart_append (hafter : Follows after)
    (h : Ends (exponentPart negative d text) n rest) :
    Ends (exponentPart negative d (text ++ after)) n (rest ++ after) := by
  rw [ends_exponentPart] at h ⊢
  obtain ⟨hdigits, hscaled, rfl⟩ := h
  -- an exponent was read, so its sign is not taken from what follows
  have hne : text ≠ [] := by
    rintro rfl
    cases hdigits
  rw [exponentSign_append hne, takeWhile_append_of_follows hafter,
    afterDigits_append_of_follows hafter]
  exact ⟨hdigits, hscaled, rfl⟩

theorem head?_append_of_follows {P : Char → Prop} (hafter : Follows after) (hcomma : P ',')
    (hline : P '\n') (h : ∀ c ∈ text.head?, P c) : ∀ c ∈ (text ++ after).head?, P c := by
  cases text with
  | nil =>
    intro c hc
    rcases hafter c hc with rfl | rfl
    · exact hcomma
    · exact hline
  | cons c tail => exact h

/-- What follows a number is left where its fraction ends. -/
theorem Ends.fractionEnd_append (hafter : Follows after)
    (h : Ends (fractionEnd negative d text) n rest) :
    Ends (fractionEnd negative d (text ++ after)) n (rest ++ after) := by
  by_cases hplain : ∀ c ∈ text.head?, c ≠ 'e' ∧ c ≠ 'E'
  · obtain ⟨hscaled, rfl⟩ := (ends_fractionEnd_plain hplain).mp h
    rw [ends_fractionEnd_plain
      (head?_append_of_follows hafter (by decide) (by decide) hplain)]
    exact ⟨hscaled, rfl⟩
  · cases text with
    -- an empty text has no exponent
    | nil => exact absurd nofun hplain
    | cons c tail =>
      have hc : c = 'e' ∨ c = 'E' := by
        by_contra hneither
        rw [not_or] at hneither
        apply hplain
        rintro _ ⟨⟩
        exact hneither
      rw [ends_fractionEnd_exponent hc] at h
      rw [List.cons_append, ends_fractionEnd_exponent hc]
      exact h.exponentPart_append hafter

/-- What follows a number is left where its whole part ends. -/
theorem Ends.wholeEnd_append (hafter : Follows after)
    (h : Ends (wholeEnd negative d text) n rest) :
    Ends (wholeEnd negative d (text ++ after)) n (rest ++ after) := by
  by_cases hplain : ∀ c ∈ text.head?, c ≠ '.' ∧ c ≠ 'e' ∧ c ≠ 'E'
  · obtain ⟨hwhole, rfl⟩ := (ends_wholeEnd_plain hplain).mp h
    rw [ends_wholeEnd_plain (head?_append_of_follows hafter (by decide) (by decide) hplain)]
    exact ⟨hwhole, rfl⟩
  · cases text with
    | nil => exact absurd nofun hplain
    | cons c tail =>
      rw [List.cons_append]
      -- either a fraction starts here or an exponent does
      by_cases hpoint : c = '.'
      · subst hpoint
        rw [ends_wholeEnd_point] at h
        rw [ends_wholeEnd_point, takeWhile_append_of_follows hafter,
          afterDigits_append_of_follows hafter]
        exact ⟨h.1, h.2.fractionEnd_append hafter⟩
      · have hc : c = 'e' ∨ c = 'E' := by
          by_contra hneither
          rw [not_or] at hneither
          apply hplain
          rintro _ ⟨⟩
          exact ⟨hpoint, hneither⟩
        rw [ends_wholeEnd_exponent hc] at h ⊢
        exact h.exponentPart_append hafter

theorem readsTo_unsignedNumber {c : Char} :
    ReadsTo (unsignedNumber negative) (c :: text) n rest ↔
      c.isDigit = true ∧ ¬ (c = '0' ∧ (text.takeWhile Char.isDigit).length ≠ 0) ∧
        Ends (wholeEnd negative
          ((c :: text.takeWhile Char.isDigit).foldl Digits.addWhole .none)
          (afterDigits text)) n rest := by
  unfold ReadsTo unsignedNumber Ends
  dsimp only
  by_cases hdigit : c.isDigit = true
  · by_cases hzero : c = '0' ∧ (text.takeWhile Char.isDigit).length ≠ 0
    · -- a leading zero is refused
      rw [if_neg (not_not.mpr hdigit), if_pos hzero]
      constructor
      · rintro ⟨r, hr, -⟩
        cases hr
      · rintro ⟨-, hnot, -⟩
        exact absurd hzero hnot
    · rw [if_neg (not_not.mpr hdigit), if_neg hzero]
      simp only [bind_eq_ok]
      constructor
      · rintro ⟨r, ⟨q, hq, hr⟩, rfl, rfl⟩
        obtain rfl := Except.ok.inj hr
        exact ⟨hdigit, hzero, q, hq, rfl⟩
      · rintro ⟨-, -, q, hq, hends⟩
        obtain ⟨hvalue, hrest⟩ := Prod.mk.inj hends
        exact ⟨_, ⟨q, hq, rfl⟩, hvalue, hrest⟩
  · rw [if_pos hdigit]
    constructor
    · rintro ⟨r, hr, -⟩
      cases hr
    · rintro ⟨htrue, -⟩
      exact absurd htrue hdigit

theorem readsTo_number_minus :
    ReadsTo number ('-' :: text) n rest ↔ ReadsTo (unsignedNumber true) text n rest := by
  unfold ReadsTo number
  simp only [bind_eq_ok]
  constructor
  · rintro ⟨r, ⟨q, hq, hr⟩, hvalue, hrest⟩
    obtain rfl := Except.ok.inj hr
    exact ⟨q, hq, hvalue, hrest⟩
  · rintro ⟨q, hq, hvalue, hrest⟩
    exact ⟨_, ⟨q, hq, rfl⟩, hvalue, hrest⟩

theorem number_of_ne_minus {c : Char} (h : c ≠ '-') :
    number (c :: text) = unsignedNumber false (c :: text) := by
  apply number.eq_2
  intro tail heq
  exact h (List.cons.inj heq).1

theorem readsTo_unsignedNumber_append (hafter : Follows after)
    (h : ReadsTo (unsignedNumber negative) text n rest) :
    ReadsTo (unsignedNumber negative) (text ++ after) n (rest ++ after) := by
  cases text with
  | nil =>
    obtain ⟨r, hr, -⟩ := h
    cases hr
  | cons c tail =>
    rw [readsTo_unsignedNumber] at h
    rw [List.cons_append, readsTo_unsignedNumber, takeWhile_append_of_follows hafter,
      afterDigits_append_of_follows hafter]
    exact ⟨h.1, h.2.1, h.2.2.wholeEnd_append hafter⟩

/-- **A number is read alike whatever follows it.** -/
theorem readsTo_number_append (hafter : Follows after) (h : ReadsTo number text n rest) :
    ReadsTo number (text ++ after) n (rest ++ after) := by
  cases text with
  | nil =>
    obtain ⟨r, hr, -⟩ := h
    cases hr
  | cons c tail =>
    rw [List.cons_append]
    by_cases hminus : c = '-'
    · subst hminus
      rw [readsTo_number_minus] at h ⊢
      exact readsTo_unsignedNumber_append hafter h
    · unfold ReadsTo at h ⊢
      rw [number_of_ne_minus hminus] at h ⊢
      exact readsTo_unsignedNumber_append hafter h

end

/-! ## Integers -/

theorem digitValue_digitChar {k : Nat} (h : k < 10) : digitValue (Nat.digitChar k) = k := by
  have hall : ∀ k < 10, digitValue (Nat.digitChar k) = k := by decide
  exact hall k h

/-- The digits of an integer in range add up to it. -/
theorem foldl_addWhole_toDigits (n : Nat) (h : n ≤ maxInteger) :
    (Nat.toDigits 10 n).foldl Digits.addWhole .none = ⟨n, 0, false, h⟩ := by
  induction n using Nat.strongRecOn with
  | ind n ih =>
    by_cases hsmall : n < 10
    · have hfits : Digits.none.Fits (digitValue (Nat.digitChar n)) := by
        refine ⟨rfl, ?_⟩
        rw [digitValue_digitChar hsmall]
        show 0 * 10 + n ≤ maxInteger
        omega
      rw [Nat.toDigits_of_lt_base hsmall, List.foldl_cons, List.foldl_nil, Digits.addWhole,
        dif_pos hfits]
      simp [Digits.none, digitValue_digitChar hsmall]
    · -- all digits but the last make up a tenth
      have htenth : n / 10 ≤ maxInteger := by omega
      have hlast : n % 10 < 10 := Nat.mod_lt n (by decide)
      have hfits : Digits.Fits ⟨n / 10, 0, false, htenth⟩
          (digitValue (Nat.digitChar (n % 10))) := by
        refine ⟨rfl, ?_⟩
        rw [digitValue_digitChar hlast]
        show n / 10 * 10 + n % 10 ≤ maxInteger
        omega
      rw [Nat.toDigits_of_base_le (by decide) (by omega), List.foldl_append,
        ih (n / 10) (by omega) htenth, List.foldl_cons, List.foldl_nil, Digits.addWhole,
        dif_pos hfits]
      simp only [digitValue_digitChar hlast]
      congr 1
      omega

/-- Only zero has a leading zero. -/
theorem head?_toDigits {n : Nat} (h : n ≠ 0) : (Nat.toDigits 10 n).head? ≠ some '0' := by
  induction n using Nat.strongRecOn with
  | ind n ih =>
    by_cases hsmall : n < 10
    · have hall : ∀ k < 10, k ≠ 0 → Nat.digitChar k ≠ '0' := by decide
      rw [Nat.toDigits_of_lt_base hsmall]
      intro hhead
      exact hall n hsmall h (Option.some.inj hhead)
    · rw [Nat.toDigits_of_base_le (by decide) (by omega),
        List.head?_append_of_ne_nil _ Nat.toDigits_ne_nil]
      exact ih (n / 10) (by omega) (by omega)

theorem readsTo_toDigits {negative : Bool} {n : Nat} (h : n ≤ maxInteger) {m : Number}
    (hwhole : wholeNumber negative ⟨n, 0, false, h⟩ = .ok m) :
    ReadsTo (unsignedNumber negative) (Nat.toDigits 10 n) m [] := by
  obtain ⟨c, ds, hdigits⟩ := List.exists_cons_of_ne_nil (Nat.toDigits_ne_nil (n := n) (b := 10))
  have hall : ∀ x ∈ c :: ds, x.isDigit = true := by
    intro x hx
    rw [← hdigits] at hx
    exact Nat.isDigit_of_mem_toDigits (by decide) (by decide) hx
  obtain ⟨hc, hds⟩ := List.forall_mem_cons.mp hall
  have htake : ds.takeWhile Char.isDigit = ds := List.takeWhile_eq_self_iff.mpr hds
  have hafter : afterDigits ds = [] := List.dropWhile_eq_nil_iff.mpr hds
  have hfold := foldl_addWhole_toDigits n h
  rw [hdigits] at hfold
  rw [hdigits, readsTo_unsignedNumber, htake, hafter, hfold, ends_wholeEnd_plain (by simp)]
  refine ⟨hc, ?_, hwhole, rfl⟩
  rintro ⟨rfl, hmore⟩
  -- a leading zero is the only digit
  by_cases hzero : n = 0
  · subst hzero
    rw [Nat.toDigits_zero] at hdigits
    rw [← (List.cons.inj hdigits).2] at hmore
    exact hmore rfl
  · apply head?_toDigits hzero
    rw [hdigits]
    rfl

/-- **An integer is read back.** -/
theorem readsTo_int (n : Int) (h : minInteger ≤ n ∧ n ≤ maxInteger) :
    ReadsTo number (Number.int n h).digitText (.int n h) [] := by
  have hmin : minInteger = -0x8000000000000000 := rfl
  have hmax : maxInteger = 0xFFFFFFFFFFFFFFFF := rfl
  have hrange : n.natAbs ≤ maxInteger := by omega
  by_cases hneg : n < 0
  · have hwhole : wholeNumber true ⟨n.natAbs, 0, false, hrange⟩ = .ok (.int n h) := by
      -- the sign puts it below zero, and it is in range
      have hinside : ¬ (n.natAbs = 0 ∨ n < minInteger) := by omega
      have hvalue : -(n.natAbs : Int) = n := by omega
      simp only [wholeNumber, hvalue, dif_neg hinside, if_true, Bool.false_eq_true, if_false]
    rw [Number.digitText, if_pos hneg]
    exact readsTo_number_minus.mpr (readsTo_toDigits hrange hwhole)
  · have hwhole : wholeNumber false ⟨n.natAbs, 0, false, hrange⟩ = .ok (.int n h) := by
      have hvalue : (n.natAbs : Int) = n := by omega
      simp only [wholeNumber, hvalue]
      rfl
    have hread := readsTo_toDigits hrange hwhole
    rw [Number.digitText, if_neg hneg, List.nil_append]
    obtain ⟨c, ds, hdigits⟩ :=
      List.exists_cons_of_ne_nil (Nat.toDigits_ne_nil (n := n.natAbs) (b := 10))
    rw [hdigits] at hread ⊢
    -- a digit is no sign
    have hminus : c ≠ '-' := by
      rintro rfl
      exact absurd (readsTo_unsignedNumber.mp hread).1 (by decide)
    unfold ReadsTo
    rw [number_of_ne_minus hminus]
    exact hread

end VideoDelivery.Json
