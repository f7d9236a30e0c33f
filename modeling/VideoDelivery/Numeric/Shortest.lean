import VideoDelivery.Numeric.Binary64

/-!
# The shortest decimal of a binary64 number

Among the decimals that are read back as a given magnitude, the shortest one has the fewest digits,
and of those it is the one nearest to the magnitude. It is found on the grids of 1, 2, … 17 digits:
on each grid only the two neighbours of the magnitude can be nearest, and the first grid with a
neighbour inside the rounding interval holds the answer.

All comparisons are made in natural numbers. A magnitude counts units of `2 ^ -1074`, and its
interval reaches half a step up and half a step down, a quarter step down where the steps below are
half as wide; so bounds are counted in quarters of a unit.
-/

namespace VideoDelivery

/-- The decimal `coefficient * 10 ^ exponent`. -/
structure Decimal where
  coefficient : Nat
  exponent : Int
  deriving DecidableEq

namespace Magnitude

/-- The reals that are rounded to `m`, in quarters of a unit; the ends belong to it exactly when
the mantissa is even. -/
structure Interval where
  low : Nat
  high : Nat
  closed : Bool

/-- The interval of a magnitude. Below the least mantissa of a scale the steps are half as wide. -/
def interval (m : Magnitude) : Interval where
  low := 4 * m.units - (if m.mantissa = 1 <<< 52 ∧ m.scale ≠ 0 then 1 <<< m.scale else 2 <<< m.scale)
  high := 4 * m.units + (2 <<< m.scale)
  closed := m.mantissa % 2 = 0

/-- `num / den` quarters of a unit lie in the interval. -/
def Interval.covers (i : Interval) (num den : Nat) : Bool :=
  if i.closed then i.low * den ≤ num && num ≤ i.high * den
  else i.low * den < num && num < i.high * den

/-- The exponent `e` with `10 ^ e ≤ m < 10 ^ (e + 1)`, for a positive magnitude. Every positive
magnitude is at least `10 ^ -330`, so scaling by `10 ^ 330` leaves a whole part to count digits
of. -/
def decimalExponent (m : Magnitude) : Int :=
  ((Nat.toDigits 10 (m.units * tenTo 330 / unit)).length : Int) - 331

/-- The magnitude as a fraction whose unit is the grid point `10 ^ g`. -/
def onGrid (m : Magnitude) (g : Int) : Nat × Nat :=
  if 0 ≤ g then (m.units, unit * tenTo g.natAbs) else (m.units * tenTo g.natAbs, unit)

/-- The decimal `c * 10 ^ g` is read back as `m`. -/
def readsBack (m : Magnitude) (g : Int) (c : Nat) : Bool :=
  if 0 ≤ g then m.interval.covers (c * tenTo g.natAbs * (4 * unit)) 1
  else m.interval.covers (c * (4 * unit)) (tenTo g.natAbs)

/-- The neighbour of `m` on the grid of `10 ^ g` that is read back as `m`; the nearer one if both
are, the even one if both are as near. -/
def neighbour? (m : Magnitude) (g : Int) : Option Nat :=
  let (num, den) := m.onGrid g
  let below := num / den
  let twice := 2 * (num % den)
  match m.readsBack g below, m.readsBack g (below + 1) with
  | true, true =>
    some (if twice < den ∨ (twice = den ∧ below % 2 = 0) then below else below + 1)
  | true, false => some below
  | false, true => some (below + 1)
  | false, false => none

/-- `coefficient * 10 ^ exponent` without trailing zeros of the coefficient. -/
def stripZeros : Nat → Nat → Int → Decimal
  | 0, c, e => ⟨c, e⟩
  | fuel + 1, c, e => if c ≠ 0 ∧ c % 10 = 0 then stripZeros fuel (c / 10) (e + 1) else ⟨c, e⟩

/-- The decimal that is read back as `m` on the grid of so many digits, if there is one. -/
def shortestWithin? (m : Magnitude) (digits : Nat) : Option Decimal :=
  let g := m.decimalExponent - digits + 1
  (m.neighbour? g).map fun c => stripZeros 17 c g

/-- The power `5 ^ n`. -/
def fiveTo (n : Nat) : Nat := Nat.pow 5 n

/-- The exact decimal: a unit is `5 ^ 1074 * 10 ^ -1074`. -/
def exactDecimal (m : Magnitude) : Decimal := ⟨m.units * fiveTo 1074, -1074⟩

/-- The shortest decimal that is read back as `m`; the nearest one of that length. Seventeen digits
always suffice, so the exact decimal never has to stand in. -/
def shortest (m : Magnitude) : Decimal :=
  if m.mantissa = 0 then ⟨0, 0⟩
  else ((List.range' 1 17).findSome? m.shortestWithin?).getD m.exactDecimal

end Magnitude

end VideoDelivery
