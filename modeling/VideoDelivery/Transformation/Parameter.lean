import VideoDelivery.Property.Name

/-!
# Transformation parameters

The vocabulary of a transformation. A *coded* parameter is written as its short code and its value;
the *raw* parameter stands for transformation text that is taken over as it is. A parameter is
known by its canonical name and recognised in every spelling of it.

* `canonicalName?_canonical` — a canonical name is its own canonical name.
* `canonicalName?_congr` — spellings of one name have one canonical name.
-/

namespace VideoDelivery

/-- How the elements of a list value are joined. Only a range keeps a place for an element that
has no text, so that `25-` is a range without an end. -/
inductive Join where
  | range
  | dot
  | colon
  | comma
  deriving DecidableEq

/-- What stands between two joined elements. -/
def Join.separator : Join → String
  | .range => "-"
  | .dot => "."
  | .colon => ":"
  | .comma => ","

/-- A coded parameter. -/
structure Parameter where
  name : String
  code : String
  join : Join
  deriving DecidableEq

namespace Parameter

/-- All coded parameters. -/
def all : List Parameter := [
  ⟨"angle", "a", .dot⟩,
  ⟨"aspect_ratio", "ar", .comma⟩,
  ⟨"audio_codec", "ac", .comma⟩,
  ⟨"audio_frequency", "af", .comma⟩,
  ⟨"background", "b", .comma⟩,
  ⟨"bit_rate", "br", .comma⟩,
  ⟨"border", "bo", .comma⟩,
  ⟨"color", "co", .comma⟩,
  ⟨"color_space", "cs", .comma⟩,
  ⟨"crop", "c", .comma⟩,
  ⟨"default_image", "d", .comma⟩,
  ⟨"delay", "dl", .comma⟩,
  ⟨"density", "dn", .comma⟩,
  ⟨"dpr", "dpr", .comma⟩,
  ⟨"duration", "du", .range⟩,
  ⟨"effect", "e", .colon⟩,
  ⟨"end_offset", "eo", .range⟩,
  ⟨"fetch_format", "f", .comma⟩,
  ⟨"flags", "fl", .dot⟩,
  ⟨"fps", "fps", .range⟩,
  ⟨"gravity", "g", .comma⟩,
  ⟨"height", "h", .comma⟩,
  ⟨"keyframe_interval", "ki", .comma⟩,
  ⟨"opacity", "o", .comma⟩,
  ⟨"overlay", "l", .comma⟩,
  ⟨"page", "pg", .comma⟩,
  ⟨"prefix", "p", .comma⟩,
  ⟨"quality", "q", .comma⟩,
  ⟨"radius", "r", .colon⟩,
  ⟨"start_offset", "so", .range⟩,
  ⟨"streaming_profile", "sp", .comma⟩,
  ⟨"transformation", "t", .dot⟩,
  ⟨"underlay", "u", .comma⟩,
  ⟨"video_codec", "vc", .colon⟩,
  ⟨"video_sampling", "vs", .comma⟩,
  ⟨"width", "w", .comma⟩,
  ⟨"x", "x", .comma⟩,
  ⟨"y", "y", .comma⟩,
  ⟨"zoom", "z", .comma⟩]

/-- The canonical name of the raw parameter. -/
def rawName : String := "raw_transformation"

/-- The name is a spelling of the raw parameter. -/
def isRaw (name : String) : Bool := Name.fold name = Name.fold rawName

/-- The coded parameter that `name` is a spelling of. -/
def find? (name : String) : Option Parameter :=
  all.find? fun p => Name.fold p.name = Name.fold name

/-- The canonical name of the parameter that `name` is a spelling of. -/
def canonicalName? (name : String) : Option String :=
  if isRaw name then some rawName else (find? name).map (·.name)

/-- The name is a parameter in some spelling. -/
def isParameter (name : String) : Bool := (canonicalName? name).isSome

theorem find?_congr {a b : String} (h : Name.fold a = Name.fold b) : find? a = find? b := by
  simp [find?, h]

theorem canonicalName?_congr {a b : String} (h : Name.fold a = Name.fold b) :
    canonicalName? a = canonicalName? b := by
  simp [canonicalName?, isRaw, h, find?_congr h]

theorem fold_canonicalName {name canonical : String} (h : canonicalName? name = some canonical) :
    Name.fold canonical = Name.fold name := by
  unfold canonicalName? at h
  split at h
  next raw =>
    cases h
    exact (of_decide_eq_true raw).symm
  next =>
    obtain ⟨p, hp, rfl⟩ := Option.map_eq_some_iff.1 h
    simpa using List.find?_some hp

/-- A canonical name is its own canonical name. -/
theorem canonicalName?_canonical {name canonical : String}
    (h : canonicalName? name = some canonical) : canonicalName? canonical = some canonical :=
  (canonicalName?_congr (fold_canonicalName h)).trans h

end Parameter

end VideoDelivery
