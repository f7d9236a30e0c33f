import VideoDelivery.Diagnostics.Transformation
import VideoDelivery.Video.Reload
import VideoDelivery.Video.Render

/-!
# Notices of video elements

The notices of reading posters, overrides and properties, of rendering, and of tracking reloads.
-/

namespace VideoDelivery.Notice

/-! ## Posters -/

/-- The notices of one field of a poster description. -/
def ofPosterField (key : String) (v : Json) : List Notice :=
  let name := Name.fold key
  if name ∈ ["cloudname", "publicid", "resourcetype", "format", "secure"] then []
  else if name = "transformation" ∧ Chain.isChain v then ofChainValue v
  else ofInsertion key

/-- The notices of the fields of a poster description. -/
def ofPosterFields (p : PosterAsset) : List (String × Json) → List Notice
  | [] => []
  | (key, v) :: rest =>
    ofPosterField key v ++
      match p.addField key v with
      | .ok p => ofPosterFields p rest
      | .error _ => []

/-- The notices of reading a poster property. -/
def ofPosterProperty : Json → List Notice
  | .null | .str _ => []
  | .obj fields => ofPosterFields {} (PropertyMap.ofList fields).entries
  | v => [.unrecognizedPoster v]

/-- The notices of resolving a poster. -/
def ofPoster (poster : Option Poster) (video : Poster.Inherited) : List Notice :=
  match poster with
  | some (.asset p) => ofUrl (p.asset video) p.steps
  | _ => []

/-! ## Overrides and sources -/

/-- The notices of reading the entries of overrides. -/
def ofOverrideEntries : List (String × Json) → List Notice
  | [] => []
  | (key, v) :: rest =>
    match Format.ofToken? key, v with
    | some _, .obj fields => ofFields fields ++ ofOverrideEntries rest
    | _, _ => []

/-- The notices of reading overrides. -/
def ofOverridesValue : Json → List Notice
  | .obj fields => ofOverrideEntries (PropertyMap.ofList fields).entries
  | _ => []

/-- The notices of expanding an asset into its sources. -/
def ofExpansion (asset : Asset) (formats : List Format) (shared : List Step)
    (overrides : Overrides) : List Notice :=
  if formats.isEmpty then ofUrl asset shared
  else formats.flatMap fun f =>
    ofUrl (asset.withFormat f.extension) (Source.chainFor overrides shared f)

/-! ## Elements -/

/-- The notices of reading properties. -/
def ofPropsValue : Json → List Notice
  | .obj fields => ((PropertyMap.ofList fields).get? "children").elim [] ofChildren
  | _ => []

/-- The notices of a single property that is read into its type. -/
def ofProperty {α : Type} (m : PropertyMap) (name : String) (absent : α)
    (read : Json → Except Error α) (notices : Json → List Notice) : Bool × List Notice :=
  stage (Config.property m name absent read) ((m.get? name).elim [] notices)

/-- The notices of typing a configuration. -/
def ofProperties (m : PropertyMap) : List Notice :=
  let none (_ : Json) : List Notice := []
  untilFailure [
    ofProperty m "cloud_name" "" (Config.textOf "cloud_name") none,
    ofProperty m "format" Option.none (Config.optionalTextOf "format") none,
    ofProperty m "poster" Option.none Poster.ofProperty ofPosterProperty,
    ofProperty m "public_id" "" (Config.textOf "public_id") none,
    ofProperty m "resource_type" .video (Config.resourceTypeOf "resource_type") none,
    ofProperty m "secure" false (Config.flagOf "secure") none,
    ofProperty m "source_transformation" .empty Overrides.ofProperty ofOverridesValue,
    ofProperty m "source_types" [] Format.listOfJson none,
    ofProperty m "transformation" [] Config.chainOf
      fun v => if Chain.isChain v then ofChainValue v else []]

/-- The notices of resolving properties. -/
def ofResolving (p : Props) (ctx : Context) : List Notice :=
  ofProperties ((p.mergedConfig ctx).erase "fallback")

/-- The notices of rendering properties. -/
def ofRendering (p : Props) (ctx : Context) : List Notice :=
  ofResolving p ctx ++
    match p.resolve ctx with
    | .error _ => []
    | .ok r =>
      let c := r.config
      untilFailure [
        stage (Source.expand c.asset c.formats c.sharedChain c.overrides (.ofSecure c.secure))
          (ofExpansion c.asset c.formats c.sharedChain c.overrides),
        stage (Poster.resolve c.poster c.inherited) (ofPoster c.poster c.inherited)]

/-- The notices of taking a snapshot as the current one. -/
def ofObserving (t : ReloadTracker) (next : Snapshot) : List Notice :=
  match t.current with
  | none => []
  | some previous =>
    if previous.needsReload next then
      [.identityChanged previous.fingerprint next.fingerprint next.config.asset.publicId]
    else []

end VideoDelivery.Notice
