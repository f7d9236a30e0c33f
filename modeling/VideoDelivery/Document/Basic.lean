import VideoDelivery.Json.Printer
import VideoDelivery.Video.Render

/-!
# Documents

A document describes one video element and the layers of context around it.
-/

namespace VideoDelivery

/-- A video element with the layers of context around it. -/
structure Document where
  /-- The properties of the enclosing elements, the outermost first. -/
  layers : List PropertyMap := []
  props : Props

namespace Document

instance : BEq Document := ⟨fun a b => a.layers == b.layers && a.props == b.props⟩

/-- The context that the layers make. -/
def context (d : Document) : Context := .ofLayers d.layers

/-- The media element of the document under its own context. -/
def render (d : Document) : Except Error Rendered := d.props.render d.context

/-- The document as an object; the context is left out when it has no layers. -/
def toJson (d : Document) : Json :=
  .obj ((if d.layers.isEmpty then [] else [("context", .arr (d.layers.map PropertyMap.toJson))]) ++
    [("props", d.props.toJson)])

/-- The text of the document. -/
def pretty (d : Document) : String := d.toJson.pretty

end Document

end VideoDelivery
