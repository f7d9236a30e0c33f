import VideoDelivery.Property.Map

/-!
# Canonical values

A value used as data: in every object the fields stand in key order and each key stands once, the
last of several fields with one key counting.

* `Canonical` — the form, said of a value by itself.
* `canonical_of_Canonical` — a value in that form is kept as it is.
-/

namespace VideoDelivery.Json

mutual

/-- The value with every object read as a map. -/
def canonical : Json → Json
  | .arr items => .arr (canonicalItems items)
  | .obj fields => .obj (PropertyMap.ofList (canonicalFields fields)).entries
  | .null => .null
  | .bool b => .bool b
  | .num n => .num n
  | .str s => .str s
termination_by structural v => v

def canonicalItems : List Json → List Json
  | [] => []
  | v :: rest => canonical v :: canonicalItems rest
termination_by structural vs => vs

def canonicalFields : List (String × Json) → List (String × Json)
  | [] => []
  | (k, v) :: rest => (k, canonical v) :: canonicalFields rest
termination_by structural fs => fs

end

mutual

/-- Every object of the value has its fields in key order, each key once. -/
def Canonical : Json → Prop
  | .arr items => CanonicalItems items
  | .obj fields => InKeyOrder fields ∧ CanonicalFields fields
  | .null | .bool _ | .num _ | .str _ => True
termination_by structural v => v

def CanonicalItems : List Json → Prop
  | [] => True
  | v :: rest => Canonical v ∧ CanonicalItems rest
termination_by structural vs => vs

def CanonicalFields : List (String × Json) → Prop
  | [] => True
  | (_, v) :: rest => Canonical v ∧ CanonicalFields rest
termination_by structural fs => fs

end

mutual

theorem canonical_of_Canonical : ∀ {v : Json}, Canonical v → canonical v = v
  | .arr _, h => by rw [canonical, canonicalItems_of_Canonical h]
  | .obj fields, h => by
    obtain ⟨order, inner⟩ : InKeyOrder fields ∧ CanonicalFields fields := h
    rw [canonical, canonicalFields_of_Canonical inner, PropertyMap.entries_ofList order]
  | .null, _ => rfl
  | .bool _, _ => rfl
  | .num _, _ => rfl
  | .str _, _ => rfl

theorem canonicalItems_of_Canonical :
    ∀ {items : List Json}, CanonicalItems items → canonicalItems items = items
  | [], _ => rfl
  | v :: rest, h => by
    obtain ⟨head, tail⟩ : Canonical v ∧ CanonicalItems rest := h
    rw [canonicalItems, canonical_of_Canonical head, canonicalItems_of_Canonical tail]

theorem canonicalFields_of_Canonical :
    ∀ {fields : List (String × Json)}, CanonicalFields fields → canonicalFields fields = fields
  | [], _ => rfl
  | (k, v) :: rest, h => by
    obtain ⟨head, tail⟩ : Canonical v ∧ CanonicalFields rest := h
    rw [canonicalFields, canonical_of_Canonical head, canonicalFields_of_Canonical tail]

end

end VideoDelivery.Json
