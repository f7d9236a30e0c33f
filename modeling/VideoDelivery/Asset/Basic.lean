import VideoDelivery.Asset.ResourceType
import VideoDelivery.Json.Decode

/-!
# Assets

An asset is addressed by the account it lives in, its identifier there, its resource type and
possibly a format, which is the extension of its file.
-/

namespace VideoDelivery

/-- A hosted asset; where nothing else is said it is a video without a format of its own. -/
structure Asset where
  cloudName : String
  publicId : String
  resourceType : ResourceType := .video
  format : Option String := none
  deriving DecidableEq

namespace Asset

/-- The asset under another extension. -/
def withFormat (a : Asset) (format : String) : Asset := { a with format := some format }

/-- The last component of the path: the identifier, with the extension unless that is empty. -/
def fileName (a : Asset) : String :=
  match a.format with
  | some format => if format = "" then a.publicId else a.publicId ++ "." ++ format
  | none => a.publicId

/-- The asset as an object; an absent format is left out. -/
def toJson (a : Asset) : Json :=
  .obj ([("cloud_name", .str a.cloudName), ("public_id", .str a.publicId),
    ("resource_type", .str a.resourceType.token)] ++
    match a.format with
    | some format => [("format", .str format)]
    | none => [])

open Json (field? required stringOf optionalStringOf)

/-- An asset is read from an object, whose known fields are looked at in key order, or from a list
of its fields. -/
def ofJson : Json → Except Json.ShapeFault Asset
  | .obj fields => do
    let m := PropertyMap.ofList fields
    let cloudName ← field? m "cloud_name" stringOf
    let format ← field? m "format" optionalStringOf
    let publicId ← field? m "public_id" stringOf
    let resourceType ← field? m "resource_type" ResourceType.ofJson
    return {
      cloudName := ← required "cloud_name" cloudName
      publicId := ← required "public_id" publicId
      resourceType := resourceType.getD .video
      format := format.join }
  | .arr [] => .error (.tooShort 0 .asset 4)
  | .arr [cloud] => do
    let _ ← stringOf cloud
    .error (.tooShort 1 .asset 4)
  | .arr [cloud, id] => do return ⟨← stringOf cloud, ← stringOf id, .video, none⟩
  | .arr [cloud, id, kind] => do
    return ⟨← stringOf cloud, ← stringOf id, ← ResourceType.ofJson kind, none⟩
  | .arr (cloud :: id :: kind :: format :: more) => do
    let asset : Asset := ⟨← stringOf cloud, ← stringOf id, ← ResourceType.ofJson kind,
      ← optionalStringOf format⟩
    if more.isEmpty then return asset else .error (.tooLong (4 + more.length))
  | v => .error (.invalidType v.found .asset)

end Asset

end VideoDelivery
