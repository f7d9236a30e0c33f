import VideoDelivery.Json.Decode
import VideoDelivery.Transformation.Descriptor
import VideoDelivery.Video.Config
import VideoDelivery.Video.Context

/-!
# Properties of a video element

What a caller writes: properties in any spelling, and children. Resolving them under a context
gives the typed configuration, the attributes that are passed through to the media element, and
the text that is shown when the video cannot be played.
-/

namespace VideoDelivery

/-- What a caller writes for a video element. -/
structure Props where
  children : List Child := []
  attributes : PropertyMap := .empty

/-- What properties resolve to. -/
structure Resolved where
  config : Config
  passthrough : PropertyMap
  fallback : Option String

namespace Props

instance : BEq Props := ⟨fun a b => a.children == b.children && a.attributes == b.attributes⟩

/-! ## Construction -/

def empty : Props := {}

/-- The properties with one set. -/
def attr (p : Props) (name : String) (value : Json) : Props :=
  { p with attributes := p.attributes.insert name value }

/-- The properties with a descriptor of one step added. -/
def transformation (p : Props) (step : Step) : Props :=
  { p with children := p.children ++ [.descriptor step []] }

/-- The properties with a text added. -/
def text (p : Props) (text : String) : Props :=
  { p with children := p.children ++ [.text text] }

/-! ## Written form -/

/-- The fields that properties are written as: the children unless there are none, then all others
in key order. -/
def toFields (p : Props) : List (String × Json) :=
  (if p.children.isEmpty then [] else [("children", .arr (Child.allToJson p.children))]) ++
    p.attributes.entries

/-- The properties as an object. -/
def toJson (p : Props) : Json := .obj p.toFields

/-- Properties are read from an object; the field `children` holds the children. -/
def ofJson : Json → Except Json.ShapeFault Props
  | .obj fields => do
    let m := PropertyMap.ofList fields
    let children ← Json.field? m "children" Child.listOfJson
    return ⟨children.getD [], m.erase "children"⟩
  | v => .error (.invalidType v.found .props)

/-! ## Resolution -/

/-- The configuration of the properties within a context, `fallback` included. -/
def mergedConfig (p : Props) (ctx : Context) : PropertyMap :=
  ctx.apply (Classified.ofMap p.attributes).config

/-- The fallback text: that of the property if it is a text that is not blank, otherwise that of
the children. -/
def fallbackText? (property : Option Json) (children : List Child) : Option String :=
  match property with
  | some (.str s) => if Text.allBlank s then Child.fallbackText? children else some s
  | _ => Child.fallbackText? children

/-- The properties resolved under a context. -/
def resolve (p : Props) (ctx : Context) : Except Error Resolved := do
  let merged := p.mergedConfig ctx
  let config ← Config.ofProperties (merged.erase "fallback") (Child.allSteps p.children)
  return {
    config
    passthrough := (Classified.ofMap p.attributes).passthrough
    fallback := fallbackText? (merged.get? "fallback") p.children }

end Props

end VideoDelivery
