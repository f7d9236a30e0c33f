import VideoDelivery.Transformation.Parameter

/-!
# The vocabulary of a video element

A property of a video element is configuration, an attribute of the media element, or unknown.
Configuration is a control, which addresses the asset or chooses sources and poster, or a
transformation parameter. Every name is recognised in any spelling and has one canonical spelling:
configuration is written with underscores, media attributes as the media element expects them.

* `configName?_congr`, `mediaAttribute?_congr` — spellings of one name have one canonical spelling.
-/

namespace VideoDelivery

/-- The controls. -/
def controlNames : List String := [
  "cloud_name",
  "public_id",
  "resource_type",
  "format",
  "secure",
  "source_types",
  "source_transformation",
  "poster",
  "fallback"]

/-- The media attributes that are recognised in any spelling. -/
def mediaAttributes : List String := [
  "autoPlay",
  "playsInline",
  "crossOrigin",
  "controlsList",
  "disablePictureInPicture",
  "disableRemotePlayback",
  "defaultMuted",
  "defaultPlaybackRate"]

/-- The canonical spelling of a control or a transformation parameter. -/
def configName? (name : String) : Option String :=
  (Name.lookup controlNames name).or (Parameter.canonicalName? name)

/-- The canonical spelling of a media attribute. -/
def mediaAttribute? (name : String) : Option String := Name.lookup mediaAttributes name

theorem configName?_congr {a b : String} (h : Name.fold a = Name.fold b) :
    configName? a = configName? b := by
  simp [configName?, Name.lookup_congr h, Parameter.canonicalName?_congr h]

theorem mediaAttribute?_congr {a b : String} (h : Name.fold a = Name.fold b) :
    mediaAttribute? a = mediaAttribute? b :=
  Name.lookup_congr h

end VideoDelivery
