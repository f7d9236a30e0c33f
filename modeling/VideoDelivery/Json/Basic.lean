import VideoDelivery.Json.Number

/-!
# JSON values

A JSON value as it is written: the fields of an object are a list, in the order they stand in. A
value that is used as data has its fields in key order with each key once
(`VideoDelivery.Json.canonical`); a value that is only printed has them in the order of its kind.

* `Json.same` — equality of values, where the two zeros of binary64 are one value.
* `Json.same_refl` — it is reflexive.
-/

namespace VideoDelivery

/-- A JSON value. -/
inductive Json where
  | null
  | bool (b : Bool)
  | num (n : Number)
  | str (s : String)
  | arr (items : List Json)
  | obj (fields : List (String × Json))

namespace Json

instance : Inhabited Json := ⟨.null⟩

def isNull : Json → Bool
  | .null => true
  | _ => false

def isObject : Json → Bool
  | .obj _ => true
  | _ => false

/-- The text of a string value. -/
def asString? : Json → Option String
  | .str s => some s
  | _ => none

/-- The truth value of a boolean value. -/
def asBool? : Json → Option Bool
  | .bool b => some b
  | _ => none

/-- An integer value. -/
def ofNat (n : Nat) : Json := .num (.ofNat n)

mutual

/-- Equality of values, item by item and field by field. -/
def same : Json → Json → Bool
  | .null, .null => true
  | .bool a, .bool b => a == b
  | .num a, .num b => a.same b
  | .str a, .str b => a == b
  | .arr xs, .arr ys => sameItems xs ys
  | .obj xs, .obj ys => sameFields xs ys
  | _, _ => false
termination_by structural x => x

def sameItems : List Json → List Json → Bool
  | [], [] => true
  | x :: xs, y :: ys => same x y && sameItems xs ys
  | _, _ => false
termination_by structural xs => xs

def sameFields : List (String × Json) → List (String × Json) → Bool
  | [], [] => true
  | (k, x) :: xs, (l, y) :: ys => k == l && same x y && sameFields xs ys
  | _, _ => false
termination_by structural xs => xs

end

instance : BEq Json := ⟨same⟩

mutual

theorem same_refl : ∀ v : Json, same v v = true
  | .null => rfl
  | .bool _ => by simp [same]
  | .num n => by simp [same, n.same_refl]
  | .str _ => by simp [same]
  | .arr xs => by simp [same, sameItems_refl xs]
  | .obj xs => by simp [same, sameFields_refl xs]

theorem sameItems_refl : ∀ xs : List Json, sameItems xs xs = true
  | [] => rfl
  | x :: xs => by simp [sameItems, same_refl x, sameItems_refl xs]

theorem sameFields_refl : ∀ xs : List (String × Json), sameFields xs xs = true
  | [] => rfl
  | (k, x) :: xs => by simp [sameFields, same_refl x, sameFields_refl xs]

end

instance : ReflBEq Json := ⟨same_refl _⟩

end Json

end VideoDelivery
