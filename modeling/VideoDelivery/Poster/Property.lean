import VideoDelivery.Poster.Basic

/-!
# The poster property

A poster is written as a property of the video: a string is a complete URL and an object describes
an asset. An object without an identifier that is not blank, and every other value but null, asks
for the first frame.

The fields of the object are read in key order, in any spelling. Of two spellings of a control the
later key counts; all other fields go to the flat parameters, which have the rule of steps.

* `Poster.toJson` — the property that a poster is written as.
-/

namespace VideoDelivery

namespace PosterAsset

/-- The description with one more field. -/
def addField (p : PosterAsset) (key : String) (v : Json) : Except Error PosterAsset :=
  let name := Name.fold key
  if name = "cloudname" then .ok { p with cloudName := v.asString? }
  else if name = "publicid" then .ok { p with publicId := v.asString?.getD "" }
  else if name = "resourcetype" then
    match v.asString? with
    | some token => do return { p with resourceType := some (← ResourceType.ofToken token) }
    | none => .ok { p with resourceType := none }
  else if name = "format" then .ok { p with format := v.asString? }
  else if name = "secure" then .ok { p with secure := v.asBool? }
  else if name = "transformation" ∧ Chain.isChain v then do
    return { p with chain := ← Chain.ofJson v }
  else .ok { p with params := p.params.insert key v }

/-- The description with some fields added in turn. -/
def addFields (p : PosterAsset) : List (String × Json) → Except Error PosterAsset
  | [] => .ok p
  | (key, v) :: rest => do (← p.addField key v).addFields rest

/-- The name `transformation` is taken by a named transformation, and there is a chain too. -/
def namesAndChains (p : PosterAsset) : Bool :=
  (p.params.get? "transformation").isSome && !p.chain.isEmpty

/-- The chain as it is written. Where the name `transformation` is taken, the flat parameters are
written as its head. -/
def writtenChain (p : PosterAsset) : List Step :=
  if p.namesAndChains then p.params :: p.chain else p.chain

/-- The fields of the description. -/
def toMap (p : PosterAsset) : PropertyMap :=
  let controls : List (String × Option Json) := [
    ("public_id", some (.str p.publicId)),
    ("cloud_name", p.cloudName.map .str),
    ("resource_type", p.resourceType.map fun t => .str t.token),
    ("format", p.format.map .str),
    ("secure", p.secure.map .bool),
    ("transformation",
      if p.writtenChain.isEmpty then none else some (.arr (p.writtenChain.map Step.toJson)))]
  let flat := if p.namesAndChains then PropertyMap.empty else p.params.params
  flat.insertAll (controls.filterMap fun c => c.2.map fun v => (c.1, v))

end PosterAsset

namespace Poster

/-- A poster described by the fields of an object. -/
def ofFields (fields : List (String × Json)) : Except Error Poster := do
  let p ← PosterAsset.addFields {} (PropertyMap.ofList fields).entries
  return if Text.allBlank p.publicId then .frame p.secure else .asset p

/-- The poster of a property; null is none. -/
def ofProperty : Json → Except Error (Option Poster)
  | .null => .ok none
  | .str text => .ok (some (.url text))
  | .obj fields => do return some (← ofFields fields)
  | .bool _ | .num _ | .arr _ => .ok (some (.frame none))

/-- The property that a poster is written as. -/
def toJson : Poster → Json
  | .url text => .str text
  | .frame none => .obj []
  | .frame (some secure) => .obj [("secure", .bool secure)]
  | .asset p => p.toMap.toJson

/-- A value that has to be a poster. -/
def ofJson (v : Json) : Except Json.ShapeFault Poster := do
  match ← Json.accepted (ofProperty v) with
  | some poster => return poster
  | none => .error .nullPoster

end Poster

end VideoDelivery
