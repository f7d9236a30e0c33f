import VideoDelivery.Asset.Url
import VideoDelivery.Transformation.Chain

/-!
# Posters

The image that is shown before a video plays. It is given as a complete URL, as an asset of its own
with its own transformation, or not at all: then it is the first frame of the video itself.

A poster asset takes over from the video what it leaves open: the account and whether to use a
secure scheme.
-/

namespace VideoDelivery

/-- A poster addressed as an asset of its own. -/
structure PosterAsset where
  cloudName : Option String := none
  publicId : String := ""
  resourceType : Option ResourceType := none
  format : Option String := none
  secure : Option Bool := none
  /-- Parameters given flat; they form the first step. -/
  params : Step := .empty
  /-- The steps given as a chain. -/
  chain : List Step := []

/-- What is shown before a video plays. -/
inductive Poster where
  /-- A complete URL. -/
  | url (text : String)
  /-- The first frame of the video, possibly with a scheme of its own. -/
  | frame (secure : Option Bool)
  | asset (asset : PosterAsset)

/-- What a poster takes over from the video. -/
structure Poster.Inherited where
  cloudName : String
  publicId : String
  secure : Bool

instance : BEq PosterAsset := ⟨fun a b =>
  a.cloudName == b.cloudName && a.publicId == b.publicId && a.resourceType == b.resourceType &&
    a.format == b.format && a.secure == b.secure && a.params == b.params && a.chain == b.chain⟩

instance : BEq Poster := ⟨fun
  | .url a, .url b => a == b
  | .frame a, .frame b => a == b
  | .asset a, .asset b => a == b
  | _, _ => false⟩

/-- The extension of the first frame. -/
def frameFormat : String := "jpg"

namespace PosterAsset

/-- All steps of the poster: the flat parameters, if there are any, then the chain. -/
def steps (p : PosterAsset) : List Step := Chain.withHead p.params p.chain

/-- The asset itself, an image unless it says otherwise. -/
def asset (p : PosterAsset) (video : Poster.Inherited) : Asset where
  cloudName := p.cloudName.getD video.cloudName
  publicId := p.publicId
  resourceType := p.resourceType.getD .image
  format := p.format

end PosterAsset

namespace Poster

/-- The URL of the first frame of a video. -/
def frameUrl (video : Inherited) (secure : Option Bool) : Except Error String :=
  let asset : Asset := ⟨video.cloudName, video.publicId, .video, some frameFormat⟩
  match asset.url [] (.ofSecure (secure.getD video.secure)) with
  | .error (.configuration cause) => .error (.configuration (.defaultPoster cause))
  | result => result

/-- The URL of the poster of a video. -/
def resolve (poster : Option Poster) (video : Inherited) : Except Error String :=
  match poster with
  | none => frameUrl video none
  | some (.url text) => .ok text
  | some (.frame secure) => frameUrl video secure
  | some (.asset p) => (p.asset video).url p.steps (.ofSecure (p.secure.getD video.secure))

end Poster

end VideoDelivery
