import VideoDelivery.Poster.Property
import VideoDelivery.Source.Basic

/-!
# Typed configuration

The configuration of a video element with each property in its type. Everything in it is part of
the identity of the element: when it changes, the media element has to be loaded anew.

The properties are read in the order of their names and the first one that is malformed decides the
error. Only then the account and the identifier are required. All flat transformation parameters
form one step, before the steps of a chain-valued `transformation` and those of the descriptors.
-/

namespace VideoDelivery

/-- The typed configuration of a video element. -/
structure Config where
  asset : Asset
  secure : Bool
  /-- The requested formats, in the order of the request. -/
  formats : List Format
  /-- The flat transformation parameters. -/
  params : Step
  /-- The steps of the `transformation` property, then those of the descriptors. -/
  chain : List Step
  overrides : Overrides
  /-- The poster; absent, it is the first frame. -/
  poster : Option Poster

namespace Config

instance : BEq Config := ⟨fun a b =>
  a.asset == b.asset && a.secure == b.secure && a.formats == b.formats && a.params == b.params &&
    a.chain == b.chain && a.overrides == b.overrides && a.poster == b.poster⟩

/-- The steps that all formats share. -/
def sharedChain (c : Config) : List Step := Chain.withHead c.params c.chain

/-- What the poster takes over. -/
def inherited (c : Config) : Poster.Inherited where
  cloudName := c.asset.cloudName
  publicId := c.asset.publicId
  secure := c.secure

/-- The configuration as an object. -/
def toJson (c : Config) : Json :=
  .obj [("asset", c.asset.toJson), ("secure", .bool c.secure),
    ("source_types", .arr (c.formats.map fun f => .str f.token)), ("params", c.params.toJson),
    ("transformation", .arr (c.chain.map Step.toJson)), ("source_overrides", c.overrides.toJson),
    ("poster", (c.poster.map Poster.toJson).getD .null)]

/-! ## Single properties -/

/-- A property that has to be a string. -/
def textOf (name : String) : Json → Except Error String
  | .str s => .ok s
  | v => .error (.configuration (.notAString name v.compact))

/-- A property that has to be a string or null. -/
def optionalTextOf (name : String) : Json → Except Error (Option String)
  | .null => .ok none
  | v => do return some (← textOf name v)

/-- A property that has to be a boolean or null, which is false. -/
def flagOf (name : String) : Json → Except Error Bool
  | .null => .ok false
  | .bool b => .ok b
  | v => .error (.configuration (.notABoolean name v.compact))

/-- The resource type of a property. -/
def resourceTypeOf (name : String) (v : Json) : Except Error ResourceType := do
  ResourceType.ofToken (← textOf name v)

/-- The steps of a `transformation` property, if it is a chain. -/
def chainOf (v : Json) : Except Error (List Step) :=
  if Chain.isChain v then Chain.ofJson v else .ok []

/-- The typed value of a property, or `absent` if it is not set. -/
def property {α : Type} (m : PropertyMap) (name : String) (absent : α)
    (read : Json → Except Error α) : Except Error α :=
  match m.get? name with
  | none => .ok absent
  | some v => read v

/-- A text that is set and not blank. -/
def nonBlank (cause : Cause) : Option String → Except Error String
  | none => .error (.configuration cause)
  | some s => if Text.allBlank s then .error (.configuration cause) else .ok s

/-- The property is a flat transformation parameter. -/
def isFlat (name : String) (v : Json) : Bool :=
  Parameter.isParameter name && !(name = "transformation" && Chain.isChain v)

/-- The flat transformation parameters of a configuration. -/
def flatParams (m : PropertyMap) : Step :=
  Step.empty.insertAll (m.entries.filter fun e => isFlat e.1 e.2)

/-! ## All properties -/

/-- The typed configuration of properties under canonical names, with the steps of descriptors. -/
def ofProperties (m : PropertyMap) (descriptors : List Step) : Except Error Config := do
  let cloudName ← property m "cloud_name" none fun v => some <$> textOf "cloud_name" v
  let format ← property m "format" none (optionalTextOf "format")
  let poster ← property m "poster" none Poster.ofProperty
  let publicId ← property m "public_id" none fun v => some <$> textOf "public_id" v
  let resourceType ← property m "resource_type" .video (resourceTypeOf "resource_type")
  let secure ← property m "secure" false (flagOf "secure")
  let overrides ← property m "source_transformation" .empty Overrides.ofProperty
  let formats ← property m "source_types" [] Format.listOfJson
  let chain ← property m "transformation" [] chainOf
  -- every property has its type by now; what is left is that the asset can be addressed
  let cloudName ← nonBlank .missingCloudName cloudName
  let publicId ← nonBlank .missingPublicId publicId
  return {
    asset := { cloudName, publicId, resourceType, format }
    secure
    formats
    params := flatParams m
    chain := chain ++ descriptors
    overrides
    poster }

end Config

end VideoDelivery
