import VideoDelivery.Source.Basic
import VideoDelivery.Property.Map

/-!
# Media elements

The record that a video is rendered to. With at most one requested format the URL sits on the
element itself; with several the element has one labelled source for each.
-/

namespace VideoDelivery

/-- What a media element plays. -/
inductive Content where
  | single (src : String)
  | multi (sources : List Source)
  deriving DecidableEq

/-- A media element. -/
structure Element where
  content : Content
  poster : String
  attributes : PropertyMap
  fallback : Option String

namespace Element

/-- The URL of an element without sources. -/
def src? (e : Element) : Option String :=
  match e.content with
  | .single src => some src
  | .multi _ => none

/-- The labelled sources. -/
def sources (e : Element) : List Source :=
  match e.content with
  | .single _ => []
  | .multi sources => sources

/-- The first source with a MIME type. -/
def sourceFor? (e : Element) (mimeType : String) : Option Source :=
  e.sources.find? fun s => s.mimeType = some mimeType

/-- The fields that are left out when they say nothing. -/
def optionalFields (attributes : PropertyMap) (sources : List (String × Json))
    (fallback : Option String) : List (String × Json) :=
  (if attributes.isEmpty then [] else [("attributes", attributes.toJson)]) ++ sources ++
    match fallback with
    | some text => [("fallback", .str text)]
    | none => []

/-- The element as an object. -/
def toJson (e : Element) : Json :=
  match e.content with
  | .single src =>
    .obj ([("kind", .str "single"), ("src", .str src), ("poster", .str e.poster)] ++
      optionalFields e.attributes [] e.fallback)
  | .multi sources =>
    .obj ([("kind", .str "multi"), ("poster", .str e.poster)] ++
      optionalFields e.attributes [("sources", .arr (sources.map Source.toJson))] e.fallback)

end Element

end VideoDelivery
