import VideoDelivery.Property.Classified

/-!
# Contexts

Elements around a video element may set configuration for it. Each layer of context overrides the
one around it name by name, and the element overrides them all. What a layer would pass through to
a media element stays with the layer.
-/

namespace VideoDelivery

/-- What the elements around a video element set for it. -/
structure Context where
  /-- The inherited configuration, under canonical names. -/
  config : PropertyMap := .empty

namespace Context

def empty : Context := {}

/-- The context within one more layer. -/
def nest (ctx : Context) (layer : PropertyMap) : Context :=
  ⟨ctx.config.overlay (Classified.ofMap layer).config⟩

/-- The context within some layers, the outermost first. -/
def ofLayers (layers : List PropertyMap) : Context := layers.foldl nest empty

/-- The context of a single layer that sets the account. -/
def ofCloudName (cloudName : String) : Context :=
  empty.nest (.ofList [("cloud_name", .str cloudName)])

/-- The configuration of an element within the context. -/
def apply (ctx : Context) (own : PropertyMap) : PropertyMap := ctx.config.overlay own

end Context

end VideoDelivery
