import VideoDelivery.Source.Format
import VideoDelivery.Transformation.Step

/-!
# Overrides

A format may have a step of its own, which is applied after the steps that all formats share.
There are two readers of overrides. `ofProperty` reads the property of a video element and words
its errors for whoever wrote the property; `ofJson` reads a value that has to be of this form.

* `Overrides.get?_set` — what setting an override does to each format.
-/

namespace VideoDelivery

/-- The step of its own that each format has, if any. -/
structure Overrides where
  get? : Format → Option Step

namespace Overrides

def empty : Overrides := ⟨fun _ => none⟩

/-- The overrides with the step of a format set. -/
def set (o : Overrides) (format : Format) (step : Step) : Overrides :=
  ⟨fun f => if f = format then some step else o.get? f⟩

/-- The formats with an override and their steps, in the order of formats. -/
def entries (o : Overrides) : List (Format × Step) :=
  Format.all.filterMap fun f => (o.get? f).map fun step => (f, step)

def size (o : Overrides) : Nat := o.entries.length

def isEmpty (o : Overrides) : Bool := o.entries.isEmpty

instance : BEq Overrides := ⟨fun a b => Format.all.all fun f => a.get? f == b.get? f⟩

@[simp] theorem get?_set (o : Overrides) (format : Format) (step : Step) (f : Format) :
    (o.set format step).get? f = if f = format then some step else o.get? f := rfl

theorem ext_get? {a b : Overrides} (h : ∀ f, a.get? f = b.get? f) : a = b := by
  cases a
  cases b
  congr
  exact funext h

/-- The overrides as an object, in the order of formats. -/
def toJson (o : Overrides) : Json := .obj (o.entries.map fun e => (e.1.token, e.2.toJson))

/-! ## The property of a video element -/

/-- Overrides read from the entries of an object, on top of `o`. -/
def ofPropertyEntries (o : Overrides) : List (String × Json) → Except Error Overrides
  | [] => .ok o
  | (key, v) :: rest => do
    let format ← Format.ofToken key
    match v with
    | .obj fields => ofPropertyEntries (o.set format (Step.ofFields fields)) rest
    | _ => .error (.configuration (.overrideNotObject key))

/-- Overrides are read from an object of formats and steps, in key order; null is none. -/
def ofProperty : Json → Except Error Overrides
  | .null => .ok empty
  | .obj fields => ofPropertyEntries empty (PropertyMap.ofList fields).entries
  | v => .error (.configuration (.overridesNotObject v.compact))

/-! ## A value of this form -/

/-- Overrides read from the entries of an object, on top of `o`. -/
def ofJsonEntries (o : Overrides) : List (String × Json) → Except Json.ShapeFault Overrides
  | [] => .ok o
  | (key, v) :: rest => do
    let format ← Json.accepted (Format.ofToken key)
    ofJsonEntries (o.set format (← Step.ofJson v)) rest

/-- Overrides are read from an object of formats and steps, in key order. -/
def ofJson : Json → Except Json.ShapeFault Overrides
  | .obj fields => ofJsonEntries empty (PropertyMap.ofList fields).entries
  | v => .error (.invalidType v.found .map)

end Overrides

end VideoDelivery
