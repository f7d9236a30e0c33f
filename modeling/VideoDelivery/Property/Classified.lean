import VideoDelivery.Property.Map
import VideoDelivery.Property.Vocabulary

/-!
# Classified properties

The properties of an element are parted into configuration and what is passed through to the media
element. Recognised names are kept under their canonical spelling; unknown ones are passed through
as they are. No property is refused.
-/

namespace VideoDelivery

/-- The two parts of some properties. -/
structure Classified where
  /-- Configuration under canonical names. -/
  config : PropertyMap := .empty
  /-- What the media element gets. -/
  passthrough : PropertyMap := .empty

namespace Classified

/-- The parts with one more property. -/
def add (c : Classified) (name : String) (value : Json) : Classified :=
  match configName? name with
  | some canonical => { c with config := c.config.insertAs canonical name value }
  | none =>
    match mediaAttribute? name with
    | some canonical => { c with passthrough := c.passthrough.insertAs canonical name value }
    | none => { c with passthrough := c.passthrough.insert name value }

/-- The parts with some properties added in turn. -/
def addAll (c : Classified) (fields : List (String × Json)) : Classified :=
  fields.foldl (fun acc e => acc.add e.1 e.2) c

/-- The parts of a property map. -/
def ofMap (properties : PropertyMap) : Classified := addAll {} properties.entries

end Classified

end VideoDelivery
