import VideoDelivery.Numeric.Shortest

/-!
# JSON numbers

A number is an integer of 64 bits or a binary64 number, and the two stay apart: `2` is not `2.0`.
Within the binary64 numbers the two zeros are one value, although they are written differently.

* `Number.text` — how a number is written.
* `Number.same_refl` — every number is the same number as itself.
-/

namespace VideoDelivery

/-- The least integer: 64 bits with a sign. -/
def minInteger : Int := -0x8000000000000000

/-- The largest integer: 64 bits without a sign. -/
def maxInteger : Nat := 0xFFFFFFFFFFFFFFFF

/-- A number, an integer or a binary64 number. -/
inductive Number where
  | int (n : Int) (inRange : minInteger ≤ n ∧ n ≤ maxInteger)
  | float (x : Binary64)
  deriving DecidableEq

/-- Where positional notation of a binary64 number ends: the exponents of the first digit from
`first` up to `last` are written positionally. -/
structure PositionalRange where
  first : Int
  last : Int

namespace Number

/-- A natural number as an integer, cut off at the largest one. -/
def ofNat (n : Nat) : Number := .int (min n maxInteger : Nat) (by
  have : ((min n maxInteger : Nat) : Int) ≤ maxInteger := by
    exact_mod_cast Nat.min_le_right n maxInteger
  unfold minInteger
  omega)

/-- Numbers from `0.00001` up to below `10000000000000000.0` are written positionally. -/
def positional : PositionalRange := ⟨-5, 15⟩

/-- A decimal in positional notation, with at least one digit on each side of the point. -/
def positionalText (digits : List Char) (exponent : Int) : List Char :=
  if 0 ≤ exponent then
    digits ++ List.replicate exponent.natAbs '0' ++ ['.', '0']
  else if exponent.natAbs < digits.length then
    digits.take (digits.length - exponent.natAbs) ++ '.' ::
      digits.drop (digits.length - exponent.natAbs)
  else '0' :: '.' :: (List.replicate (exponent.natAbs - digits.length) '0' ++ digits)

/-- A decimal as its first digit, a point before the further digits if there are any, and the
signed exponent of the first digit. -/
def scientificText (digits : List Char) (leading : Int) : List Char :=
  digits.take 1 ++ (if digits.length ≤ 1 then [] else '.' :: digits.drop 1) ++
    'e' :: (if 0 ≤ leading then '+' else '-') :: Nat.toDigits 10 leading.natAbs

/-- The absolute value of a binary64 number as it is written. -/
def magnitudeText (m : Magnitude) : List Char :=
  let decimal := m.shortest
  let digits := Nat.toDigits 10 decimal.coefficient
  let leading := decimal.exponent + digits.length - 1
  if m.mantissa = 0 then ['0', '.', '0']
  else if positional.first ≤ leading ∧ leading ≤ positional.last then
    positionalText digits decimal.exponent
  else scientificText digits leading

/-- The digits of a number, an integer plainly and a binary64 number as its shortest decimal. -/
def digitText : Number → List Char
  | .int n _ => (if n < 0 then ['-'] else []) ++ Nat.toDigits 10 n.natAbs
  | .float x => (if x.negative then ['-'] else []) ++ magnitudeText x.magnitude

/-- A number as it is written. -/
def text (n : Number) : String := String.ofList n.digitText

/-- Equality of values. -/
def same : Number → Number → Bool
  | .int a _, .int b _ => a == b
  | .float a, .float b => a.sameValue b
  | _, _ => false

theorem same_refl (n : Number) : n.same n = true := by
  cases n <;> simp [same, Binary64.sameValue_refl]

end Number

end VideoDelivery
