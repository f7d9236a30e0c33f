import VideoDelivery.Asset.Url
import VideoDelivery.Source.Overrides

/-!
# Sources

A source is a URL and, when it was requested in a format, the MIME type of that format. An asset is
expanded into one source for each requested format, or into a single one without MIME type when no
format is requested.
-/

namespace VideoDelivery

/-- One URL that a media element can play from. -/
structure Source where
  mimeType : Option String
  url : String
  deriving DecidableEq

namespace Source

/-- The chain of a format: the shared steps, then the step of its own. -/
def chainFor (overrides : Overrides) (shared : List Step) (format : Format) : List Step :=
  match overrides.get? format with
  | some step => shared ++ [step]
  | none => shared

/-- The source of an asset in one format. -/
def inFormat (asset : Asset) (shared : List Step) (overrides : Overrides) (protocol : Protocol)
    (format : Format) : Except Error Source := do
  let url ← (asset.withFormat format.extension).url (chainFor overrides shared format) protocol
  return ⟨some format.mimeType, url⟩

/-- The sources of an asset in the requested formats, in the order of the request. -/
def expand (asset : Asset) (formats : List Format) (shared : List Step) (overrides : Overrides)
    (protocol : Protocol) : Except Error (List Source) :=
  if formats.isEmpty then do return [⟨none, ← asset.url shared protocol⟩]
  else formats.mapM (inFormat asset shared overrides protocol)

/-- A source as an object; an absent MIME type is left out. -/
def toJson (s : Source) : Json :=
  .obj ((match s.mimeType with
    | some mime => [("mime_type", .str mime)]
    | none => []) ++ [("url", .str s.url)])

open Json (field? required stringOf optionalStringOf)

/-- A source is read from an object or from a list of its fields. -/
def ofJson : Json → Except Json.ShapeFault Source
  | .obj fields => do
    let m := PropertyMap.ofList fields
    let mime ← field? m "mime_type" optionalStringOf
    let url ← field? m "url" stringOf
    return ⟨mime.join, ← required "url" url⟩
  | .arr [] => .error (.tooShort 1 .source 2)
  | .arr [mime] => do
    let _ ← optionalStringOf mime
    .error (.tooShort 1 .source 2)
  | .arr (mime :: url :: more) => do
    let source : Source := ⟨← optionalStringOf mime, ← stringOf url⟩
    if more.isEmpty then return source else .error (.tooLong (2 + more.length))
  | v => .error (.invalidType v.found .source)

end Source

end VideoDelivery
