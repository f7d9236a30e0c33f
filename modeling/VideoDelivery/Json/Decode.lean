import VideoDelivery.Error
import VideoDelivery.Json.Fault
import VideoDelivery.Property.Map

/-!
# Reading values of a wanted form

The readers of strings, fields and lists that the readers of larger forms are built from. Each gives
the value or says what was found instead. A value that has the form and is still not accepted is
refused in the words of whoever refuses it (`accepted`).
-/

namespace VideoDelivery.Json

/-- A value that has to be a string. -/
def stringOf : Json → Except ShapeFault String
  | .str s => .ok s
  | v => .error (.invalidType v.found .string)

/-- A value that has to be a string or null. -/
def optionalStringOf : Json → Except ShapeFault (Option String)
  | .null => .ok none
  | v => do return some (← stringOf v)

/-- A value that has to be an object. -/
def mapOf : Json → Except ShapeFault PropertyMap
  | .obj fields => .ok (.ofList fields)
  | v => .error (.invalidType v.found .map)

/-- A value that has to be a list, read item by item. -/
def listOf {α : Type} (item : Json → Except ShapeFault α) : Json → Except ShapeFault (List α)
  | .arr items => items.mapM item
  | v => .error (.invalidType v.found .sequence)

/-- A field that may be missing. -/
def field? {α : Type} (m : PropertyMap) (name : String) (read : Json → Except ShapeFault α) :
    Except ShapeFault (Option α) :=
  match m.get? name with
  | none => .ok none
  | some v => do return some (← read v)

/-- A field that must not be missing. -/
def required {α : Type} (name : String) : Option α → Except ShapeFault α
  | some a => .ok a
  | none => .error (.missingField name)

/-- What a value was taken for, or its refusal. -/
def accepted {α : Type} : Except Error α → Except ShapeFault α
  | .ok a => .ok a
  | .error e => .error (.refused e.message)

end VideoDelivery.Json
