/-!
# Binary64 numbers

A finite binary64 number is a sign and a magnitude. A magnitude is `mantissa * 2 ^ scale` counted
in units of `2 ^ -1074`, the least positive one, so every magnitude is a natural number of units
and all arithmetic here is exact until it is rounded to the nearest magnitude, ties to even.

* `Magnitude.nearest` — the magnitude nearest to a fraction of units.
* `roundHalfEven_ge` — rounding takes nothing off the whole part of a quotient.
* `Magnitude.scaleByTen` — multiplication by a power of ten in steps that are each rounded.
-/

namespace VideoDelivery

/-- The natural number nearest to `num / den`; halfway between two, the even one. -/
def roundHalfEven (num den : Nat) : Nat :=
  let q := num / den
  let r := num % den
  if 2 * r < den ∨ (2 * r = den ∧ q % 2 = 0) then q else q + 1

theorem roundHalfEven_ge (num den : Nat) : num / den ≤ roundHalfEven num den := by
  unfold roundHalfEven
  dsimp only
  split <;> omega

/-- The power `10 ^ n`. -/
def tenTo (n : Nat) : Nat := Nat.pow 10 n

/-- The absolute value of a binary64 number, without an upper bound. Every value has one form: the
mantissa fills its 53 bits unless the scale is 0. -/
structure Magnitude where
  mantissa : Nat
  scale : Nat
  mantissa_lt : mantissa < 1 <<< 53
  normal : scale = 0 ∨ 1 <<< 52 ≤ mantissa
  deriving DecidableEq

namespace Magnitude

/-- One, in units. -/
def unit : Nat := 1 <<< 1074

def zero : Magnitude := ⟨0, 0, by decide, .inl rfl⟩

/-- The value as a number of units. -/
def units (m : Magnitude) : Nat := m.mantissa <<< m.scale

/-- How many bits of a whole number of units lie beyond the 53 of a mantissa. -/
def excess (n : Nat) : Nat := n.log2 - 52

theorem shifted_bounds (n : Nat) :
    n >>> excess n < 1 <<< 53 ∧ (excess n = 0 ∨ 1 <<< 52 ≤ n >>> excess n) := by
  simp only [Nat.shiftRight_eq_div_pow, Nat.shiftLeft_eq, Nat.one_mul]
  by_cases small : n < 2 ^ 53
  · have hlog : n.log2 ≤ 52 := by
      by_cases h : n = 0
      · subst h; decide
      · have := (Nat.log2_lt h).2 small
        omega
    have : excess n = 0 := by unfold excess; omega
    rw [this]
    exact ⟨by simpa using small, .inl rfl⟩
  · have pos : n ≠ 0 := by
      rintro rfl
      exact small (by decide)
    have hlog : 52 < n.log2 := by
      rcases Nat.lt_or_ge 52 n.log2 with h | h
      · exact h
      · exact absurd ((Nat.log2_lt pos).1 (Nat.lt_succ_of_le h)) small
    have split_log : n.log2 = 52 + excess n := by unfold excess; omega
    constructor
    · rw [Nat.div_lt_iff_lt_mul (Nat.two_pow_pos _), ← Nat.pow_add]
      have : 53 + excess n = n.log2 + 1 := by omega
      rw [this]
      exact Nat.lt_log2_self
    · right
      rw [Nat.le_div_iff_mul_le (Nat.two_pow_pos _), ← Nat.pow_add, ← split_log]
      exact Nat.log2_self_le pos

/-- The magnitude nearest to `num / den` units, ties to the even mantissa. -/
def nearest (num den : Nat) : Magnitude :=
  let shift := excess (num / den)
  let m := roundHalfEven num (den <<< shift)
  have bounds := shifted_bounds (num / den)
  have whole : num / (den <<< shift) = (num / den) >>> shift := by
    rw [Nat.shiftLeft_eq, Nat.shiftRight_eq_div_pow, Nat.div_div_eq_div_mul]
  have ge : (num / den) >>> shift ≤ m := whole ▸ roundHalfEven_ge num (den <<< shift)
  -- rounding up can carry into a 54th bit; what is left then is a power of two
  if h : m < 1 <<< 53 then
    ⟨m, shift, h, bounds.2.imp id fun low => Nat.le_trans low ge⟩
  else
    ⟨1 <<< 52, shift + 1, by decide, .inr (Nat.le_refl _)⟩

/-- The largest scale of a finite binary64 number. -/
def maxScale : Nat := 2045

/-- The magnitude is one of a binary64 number, and not past the last of them. -/
def isFinite (m : Magnitude) : Bool := m.scale ≤ maxScale

/-- The magnitude nearest to a natural number. -/
def ofNat (n : Nat) : Magnitude := nearest (n * unit) 1

/-- The magnitude nearest to a product. -/
def mul (a b : Magnitude) : Magnitude := nearest (a.units * b.units) unit

/-- The magnitude nearest to a quotient. -/
def div (a b : Magnitude) : Magnitude := nearest (a.units * unit) b.units

/-- The magnitude nearest to `10 ^ n`. -/
def powerOfTen (n : Nat) : Magnitude := ofNat (tenTo n)

/-- `m * 10 ^ e` as one rounded product or quotient by a power of ten up to `10 ^ 308`. A larger
negative power is taken off in steps of `10 ^ 308`; a larger positive power has no answer unless
`m` is zero. -/
def scaleByTen (m : Magnitude) (e : Int) : Option Magnitude :=
  if e.natAbs ≤ 308 then
    if 0 ≤ e then some (m.mul (powerOfTen e.natAbs)) else some (m.div (powerOfTen e.natAbs))
  else if m.mantissa = 0 then some m
  else if 0 ≤ e then none
  else scaleByTen (m.div (powerOfTen 308)) (e + 308)
termination_by e.natAbs

end Magnitude

/-- A finite binary64 number; zero has two signs. -/
structure Binary64 where
  negative : Bool
  magnitude : Magnitude
  finite : magnitude.isFinite = true
  deriving DecidableEq

namespace Binary64

/-- The number with the given sign and magnitude, if the magnitude is a finite one. -/
def ofMagnitude? (negative : Bool) (m : Magnitude) : Option Binary64 :=
  if finite : m.isFinite = true then some ⟨negative, m, finite⟩ else none

/-- Zero of the given sign. -/
def zero (negative : Bool) : Binary64 := ⟨negative, .zero, by decide⟩

/-- The decimal `significand * 10 ^ exponent` as a binary64 number: the significand is rounded
first, then scaled. Nothing if the result is past the last finite number. -/
def ofDecimal? (negative : Bool) (significand : Nat) (exponent : Int) : Option Binary64 := do
  ofMagnitude? negative (← (Magnitude.ofNat significand).scaleByTen exponent)

/-- Equality of values: the two zeros are one value. -/
def sameValue (a b : Binary64) : Bool :=
  a.magnitude == b.magnitude && (a.negative == b.negative || a.magnitude.mantissa == 0)

theorem sameValue_refl (a : Binary64) : a.sameValue a = true := by
  simp [sameValue]

end Binary64

end VideoDelivery
