import VideoDelivery.Error
import VideoDelivery.Json.Fault
import VideoDelivery.Text.Blank

/-!
# Resource types

What kind of thing a hosted asset is; the second component of the path of its URL.
-/

namespace VideoDelivery

/-- The kind of a hosted asset. -/
inductive ResourceType where
  | image
  | video
  | raw
  deriving DecidableEq

namespace ResourceType

/-- The type as it stands in a path. -/
def token : ResourceType → String
  | .image => "image"
  | .video => "video"
  | .raw => "raw"

/-- All resource types. -/
def all : List ResourceType := [.image, .video, .raw]

/-- The type that a token stands for, without regard to blanks around it and ASCII case. -/
def ofToken (s : String) : Except Error ResourceType :=
  match all.find? fun t => t.token = Text.normalToken s with
  | some t => .ok t
  | none => .error (.configuration (.unknownResourceType (Text.normalToken s)))

/-- The type of exactly this name. -/
def ofName (name : String) : Except Json.ShapeFault ResourceType :=
  match all.find? fun t => t.token = name with
  | some t => .ok t
  | none => .error (.unknownVariant name)

/-- A type is read from its name, or from an object with its name as the only key and null as the
value. -/
def ofJson : Json → Except Json.ShapeFault ResourceType
  | .str name => ofName name
  | .obj [(name, v)] => do
    let t ← ofName name
    if v.isNull then return t else .error (.invalidType v.found .unit)
  | .obj _ => .error .notOneKey
  | v => .error (.invalidType v.found .stringOrMap)

end ResourceType

end VideoDelivery
