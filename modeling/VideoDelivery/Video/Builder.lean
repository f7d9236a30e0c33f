import VideoDelivery.Video.Props

/-!
# Building properties

The properties of a video element, put together step by step. What is built is the property map
that a caller would write by hand; requested formats and overrides come in as the properties
`source_types` and `source_transformation` at the end, if there are any.
-/

namespace VideoDelivery

/-- The properties of a video element under construction. -/
structure Builder where
  attributes : PropertyMap := .empty
  /-- The requested formats, in the order of the calls. -/
  formats : List Format := []
  /-- The overrides, by format token. -/
  overrides : PropertyMap := .empty
  children : List Child := []

namespace Builder

def empty : Builder := {}

/-- Sets a property in any spelling. -/
def attr (b : Builder) (name : String) (value : Json) : Builder :=
  { b with attributes := b.attributes.insert name value }

/-- A builder that addresses an asset. -/
def ofPublicId (publicId : String) : Builder := empty.attr "public_id" (.str publicId)

/-- Sets the account. -/
def cloudName (b : Builder) (name : String) : Builder := b.attr "cloud_name" (.str name)

/-- Asks for a secure protocol or for the plain one. -/
def secure (b : Builder) (on : Bool) : Builder := b.attr "secure" (.bool on)

/-- Requests one more format. -/
def sourceType (b : Builder) (format : Format) : Builder :=
  { b with formats := b.formats ++ [format] }

/-- Sets the step of its own of a format. -/
def sourceTransformation (b : Builder) (format : Format) (step : Step) : Builder :=
  { b with overrides := b.overrides.insert format.token step.toJson }

/-- Sets a flat transformation parameter. -/
def param (b : Builder) (name : String) (value : Json) : Builder := b.attr name value

/-- Adds a descriptor of one step. -/
def transformation (b : Builder) (step : Step) : Builder :=
  { b with children := b.children ++ [.descriptor step []] }

/-- Sets the poster. -/
def poster (b : Builder) (poster : Poster) : Builder := b.attr "poster" poster.toJson

/-- Sets the poster to a complete URL. -/
def posterUrl (b : Builder) (url : String) : Builder := b.attr "poster" (.str url)

/-- Adds a text that is shown when the video cannot be played. -/
def fallback (b : Builder) (text : String) : Builder :=
  { b with children := b.children ++ [.text text] }

/-- The properties that were built. -/
def build (b : Builder) : Props :=
  let types : List (String × Json) :=
    if b.formats.isEmpty then []
    else [("source_types", .arr (b.formats.map fun f => .str f.token))]
  let overrides : List (String × Json) :=
    if b.overrides.isEmpty then [] else [("source_transformation", b.overrides.toJson)]
  ⟨b.children, b.attributes.insertAll (types ++ overrides)⟩

end Builder

end VideoDelivery
