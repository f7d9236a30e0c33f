import VideoDelivery.Json.Number
import Mathlib.Data.String.Basic

/-!
# How long a written number is, and which equal numbers are written apart

A number is written as text before it goes anywhere: into the identity bytes and into a URL. The
first two facts about that text carry the comparison of configurations, the last one keeps tokens
from being empty.

* `Number.utf8ByteSize_text_lt` — **the text of every number is short**: its size fits the four
  bytes that stand before a text in the identity bytes. An integer has at most 20 digits. A
  binary64 number is less than `10 ^ 2098` units, so each grid that its shortest decimal is looked
  for on lies within 2115 places of the point, and the coefficient there has few digits.
* `Number.eq_or_zeros_of_same`, `Number.text_eq_iff_of_same` — **numbers of one value are one
  number, or the two zeros** of binary64, which are written apart as `0.0` and `-0.0`.
* `Number.text_ne_empty` — no number is written as nothing.
-/

namespace VideoDelivery

/-! ## Digits -/

theorem length_toDigits_le {n k : Nat} (hk : 0 < k) (h : n < 10 ^ k) :
    (Nat.toDigits 10 n).length ≤ k :=
  (Nat.length_toDigits_le_iff (by decide) hk).mpr h

theorem length_toDigits_natAbs_le (i : Int) : (Nat.toDigits 10 i.natAbs).length ≤ i.natAbs + 1 :=
  length_toDigits_le (by omega) (Nat.lt_trans (Nat.lt_pow_self (by decide))
    (Nat.pow_lt_pow_right (by decide) (Nat.lt_succ_self _)))

theorem tenTo_eq (n : Nat) : tenTo n = 10 ^ n := rfl

theorem fiveTo_le_tenTo (n : Nat) : Magnitude.fiveTo n ≤ tenTo n :=
  Nat.pow_le_pow_left (by decide) n

theorem mul_tenTo_lt {n a : Nat} (h : n < 10 ^ a) (b : Nat) : n * tenTo b < 10 ^ (a + b) := by
  rw [tenTo_eq, Nat.pow_add]
  exact Nat.mul_lt_mul_of_pos_right h (Nat.pow_pos (by decide))

theorem length_toDigits_scaled_le {n a : Nat} (ha : 0 < a) (h : n < 10 ^ a) (b : Nat) :
    (Nat.toDigits 10 (n * tenTo b)).length ≤ a + b :=
  length_toDigits_le (by omega) (mul_tenTo_lt h b)

theorem length_toDigits_mono {m n k : Nat} (hk : 0 < k) (hle : m ≤ n)
    (h : (Nat.toDigits 10 n).length ≤ k) : (Nat.toDigits 10 m).length ≤ k :=
  length_toDigits_le hk (Nat.lt_of_le_of_lt hle ((Nat.length_toDigits_le_iff (by decide) hk).mp h))

/-! ## The shortest decimal -/

namespace Magnitude

/-- Places that the decimal digits of every finite magnitude have room in, counted in units. -/
def unitPlaces : Nat := 53 + maxScale

theorem units_lt {m : Magnitude} (hm : m.isFinite = true) : m.units < 10 ^ unitPlaces := by
  have hscale : m.scale ≤ maxScale := by
    unfold isFinite at hm
    exact of_decide_eq_true hm
  rw [units, Nat.shiftLeft_eq]
  -- the mantissa fills 53 bits at most and the scale shifts them by so many more
  calc m.mantissa * 2 ^ m.scale
      < 2 ^ 53 * 2 ^ m.scale := Nat.mul_lt_mul_of_pos_right m.mantissa_lt (Nat.two_pow_pos _)
    _ = 2 ^ (53 + m.scale) := (Nat.pow_add 2 53 m.scale).symm
    _ ≤ 2 ^ unitPlaces := Nat.pow_le_pow_right (by decide) (Nat.add_le_add_left hscale 53)
    _ ≤ 10 ^ unitPlaces := Nat.pow_le_pow_left (by decide) unitPlaces

theorem natAbs_decimalExponent_le {m : Magnitude} (hm : m.isFinite = true) :
    m.decimalExponent.natAbs ≤ unitPlaces := by
  -- the arithmetic is done for any length, so that no power is worked out
  have hshift : ∀ len : Nat, len ≤ unitPlaces + 330 → ((len : Int) - 331).natAbs ≤ unitPlaces := by
    have hplaces : unitPlaces = 2098 := rfl
    omega
  have hscaled : (Nat.toDigits 10 (m.units * tenTo 330)).length ≤ unitPlaces + 330 :=
    length_toDigits_scaled_le (by decide) (units_lt hm) 330
  exact hshift _ (length_toDigits_mono (by decide) (Nat.div_le_self _ unit) hscaled)

/-- The neighbours of a magnitude on a grid are at most one above the magnitude itself. -/
theorem onGrid_quotient_le (m : Magnitude) (g : Int) :
    (m.onGrid g).1 / (m.onGrid g).2 ≤ m.units * tenTo g.natAbs := by
  unfold onGrid
  split
  · exact Nat.le_trans (Nat.div_le_self _ _) (Nat.le_mul_of_pos_right _ (Nat.pow_pos (by decide)))
  · exact Nat.div_le_self _ _

theorem le_of_neighbour? {m : Magnitude} {g : Int} {c : Nat} (h : m.neighbour? g = some c) :
    c ≤ m.units * tenTo g.natAbs + 1 := by
  have hq := m.onGrid_quotient_le g
  unfold neighbour? at h
  dsimp only at h
  -- the neighbour below, or the one above it, whichever are read back
  split at h
  · obtain rfl := Option.some.inj h
    split <;> omega
  · obtain rfl := Option.some.inj h
    omega
  · obtain rfl := Option.some.inj h
    omega
  · cases h

theorem stripZeros_bounds (fuel c : Nat) (e : Int) :
    (stripZeros fuel c e).coefficient ≤ c ∧ e ≤ (stripZeros fuel c e).exponent ∧
      (stripZeros fuel c e).exponent ≤ e + fuel := by
  induction fuel generalizing c e with
  | zero => simp [stripZeros]
  | succ fuel ih =>
    unfold stripZeros
    split
    · obtain ⟨hc, hlow, hhigh⟩ := ih (c / 10) (e + 1)
      have : c / 10 ≤ c := Nat.div_le_self _ _
      omega
    · simp
      omega

/-- The digits of a decimal fit so many places, and its last one lies so near the point. -/
def Near (places : Nat) (d : Decimal) : Prop :=
  (Nat.toDigits 10 d.coefficient).length ≤ 2 * places + 18 ∧ d.exponent.natAbs ≤ places + 34

theorem near_shortestWithin? {m : Magnitude} (hm : m.isFinite = true) {digits : Nat} {d : Decimal}
    (hdigits : digits ≤ 17) (h : m.shortestWithin? digits = some d) : Near unitPlaces d := by
  have hexp := natAbs_decimalExponent_le hm
  unfold shortestWithin? at h
  dsimp only at h
  generalize hg : m.decimalExponent - digits + 1 = g at h
  obtain ⟨c, hc, rfl⟩ := Option.map_eq_some_iff.mp h
  obtain ⟨hcoeff, hlow, hhigh⟩ := stripZeros_bounds 17 c g
  -- the grid is at most so far from the point, so its coefficient has few more digits
  have hmul := mul_tenTo_lt (units_lt hm) g.natAbs
  have hlt : (stripZeros 17 c g).coefficient < 10 ^ (unitPlaces + g.natAbs + 1) := by
    have := le_of_neighbour? hc
    have := Nat.pow_lt_pow_right (by decide : 1 < 10) (Nat.lt_succ_self (unitPlaces + g.natAbs))
    omega
  have hlen := length_toDigits_le (by omega) hlt
  constructor <;> omega

theorem near_exactDecimal {m : Magnitude} (hm : m.isFinite = true) :
    Near unitPlaces m.exactDecimal := by
  have hlen : (Nat.toDigits 10 m.exactDecimal.coefficient).length ≤ unitPlaces + 1074 :=
    length_toDigits_mono (by decide) (Nat.mul_le_mul_left m.units (fiveTo_le_tenTo 1074))
      (length_toDigits_scaled_le (by decide) (units_lt hm) 1074)
  have hexp : m.exactDecimal.exponent = -1074 := rfl
  exact ⟨Nat.le_trans hlen (by decide), hexp ▸ by decide⟩

theorem near_shortest {m : Magnitude} (hm : m.isFinite = true) (hpos : m.mantissa ≠ 0) :
    Near unitPlaces m.shortest := by
  rw [shortest, if_neg hpos]
  cases h : (List.range' 1 17).findSome? m.shortestWithin? with
  | none => exact near_exactDecimal hm
  | some d =>
    -- it was found on one of the seventeen grids
    obtain ⟨digits, hmem, hd⟩ := List.exists_of_findSome?_eq_some h
    have hdigits : digits ≤ 17 := by
      have := (List.mem_range'_1.mp hmem).2
      omega
    exact near_shortestWithin? hm hdigits hd

end Magnitude

/-! ## The text -/

namespace Number

/-- Positional notation adds zeros up to the point, and the point is near. -/
theorem length_positionalText_le {digits : List Char} {exponent : Int}
    (hlow : positional.first ≤ exponent + digits.length - 1)
    (hhigh : exponent + digits.length - 1 ≤ positional.last) :
    (positionalText digits exponent).length ≤ digits.length + 18 := by
  simp only [positional] at hlow hhigh
  unfold positionalText
  -- zeros before the point, a point within the digits, zeros after the point
  split
  · simp
    omega
  · split
    · simp
      omega
    · simp
      omega

theorem length_scientificText_le (digits : List Char) (leading : Int) :
    (scientificText digits leading).length ≤ digits.length + leading.natAbs + 4 := by
  have hdigits := length_toDigits_natAbs_le leading
  unfold scientificText
  split <;> simp <;> omega

theorem length_magnitudeText_le {m : Magnitude} (hm : m.isFinite = true) :
    (magnitudeText m).length ≤ 15000 := by
  unfold magnitudeText
  dsimp only
  split
  · simp
  · next hmantissa =>
    obtain ⟨hlen, hexp⟩ := Magnitude.near_shortest hm hmantissa
    have hplaces : Magnitude.unitPlaces = 2098 := rfl
    split
    · next hrange =>
      have := length_positionalText_le hrange.1 hrange.2
      omega
    · refine Nat.le_trans (length_scientificText_le _ _) ?_
      omega

theorem length_digitText_le (n : Number) : n.digitText.length ≤ 15001 := by
  cases n with
  | int n inRange =>
    have habs : n.natAbs < 10 ^ 20 := by
      simp only [minInteger, maxInteger] at inRange
      omega
    have hlen := length_toDigits_le (by decide) habs
    have hsign : (if n < 0 then ['-'] else []).length ≤ 1 := by split <;> simp
    rw [digitText, List.length_append]
    omega
  | float x =>
    have hlen := length_magnitudeText_le x.finite
    have hsign : (if x.negative then ['-'] else []).length ≤ 1 := by split <;> simp
    rw [digitText, List.length_append]
    omega

theorem utf8Len_le (cs : List Char) : String.utf8Len cs ≤ 4 * cs.length := by
  induction cs with
  | nil => simp
  | cons c cs ih =>
    have := c.utf8Size_le_four
    simp
    omega

/-- **The text of a number is short**: its size in UTF-8 fits four bytes. -/
theorem utf8ByteSize_text_lt (n : Number) : n.text.utf8ByteSize < 2 ^ 32 := by
  have hbytes := utf8Len_le n.digitText
  have hlen := n.length_digitText_le
  rw [text, String.utf8ByteSize_ofList]
  omega

/-! ## Something is written -/

theorem digitText_ne_nil (n : Number) : n.digitText ≠ [] := by
  have hmagnitude : ∀ m : Magnitude, magnitudeText m ≠ [] := by
    intro m
    unfold magnitudeText positionalText scientificText
    dsimp only
    -- every notation has a zero, a point or an exponent in it
    split_ifs <;> simp
  cases n with
  | int n h => simp [digitText]
  | float x => simp [digitText, hmagnitude]

theorem text_ne_empty (n : Number) : n.text ≠ "" := by
  rw [text, ne_eq, ← String.toList_inj, String.toList_ofList]
  exact n.digitText_ne_nil

/-! ## One value, two texts -/

theorem eq_zero_of_mantissa {m : Magnitude} (h : m.mantissa = 0) : m = .zero := by
  obtain ⟨mantissa, scale, hlt, hnormal⟩ := m
  obtain rfl : mantissa = 0 := h
  -- a mantissa below 53 bits leaves no scale but zero
  obtain rfl : scale = 0 := hnormal.resolve_right (by decide)
  rfl

/-- **Numbers of one value are one number, or the two zeros.** -/
theorem eq_or_zeros_of_same {a b : Number} (h : a.same b = true) :
    a = b ∨ ∃ negative, a = .float (.zero negative) ∧ b = .float (.zero !negative) := by
  cases a with
  | int m hm =>
    cases b with
    | int n hn =>
      obtain rfl : m = n := eq_of_beq h
      exact .inl rfl
    | float y => cases h
  | float x =>
    cases b with
    | int n hn => cases h
    | float y =>
      obtain ⟨negative, m, hx⟩ := x
      obtain ⟨negative', m', hy⟩ := y
      simp only [same, Binary64.sameValue, Bool.and_eq_true, Bool.or_eq_true, beq_iff_eq] at h
      obtain ⟨rfl, hsign⟩ := h
      by_cases hne : negative = negative'
      · subst hne
        exact .inl rfl
      · -- two signs are left to zero alone
        obtain rfl := eq_zero_of_mantissa (hsign.resolve_left hne)
        refine .inr ⟨negative, rfl, ?_⟩
        obtain rfl : negative' = !negative := by cases negative <;> cases negative' <;> simp_all
        rfl

theorem text_zero_ne (negative : Bool) :
    text (.float (.zero negative)) ≠ text (.float (.zero !negative)) := by
  cases negative <;> decide

/-- Among numbers of one value the text tells the two zeros apart, and nothing else. -/
theorem text_eq_iff_of_same {a b : Number} (h : a.same b = true) : a.text = b.text ↔ a = b := by
  rcases eq_or_zeros_of_same h with rfl | ⟨negative, rfl, rfl⟩
  · simp
  · constructor
    · intro htext
      exact absurd htext (text_zero_ne negative)
    · intro heq
      rw [heq]

end Number

end VideoDelivery
