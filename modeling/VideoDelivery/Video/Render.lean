import VideoDelivery.Video.Element
import VideoDelivery.Video.Props
import VideoDelivery.Video.Snapshot

/-!
# Rendering

Properties under a context are resolved, and every URL is compiled: the sources first, then the
poster. The result is the media element together with the snapshot it was rendered from.
-/

namespace VideoDelivery

/-- A media element and the snapshot it was rendered from. -/
structure Rendered where
  element : Element
  snapshot : Snapshot

namespace Rendered

/-- What the media element plays: one labelled source for each of several formats, or the single
URL there is. -/
def content (formats : List Format) (sources : List Source) : Except Error Content :=
  if 1 < formats.length then .ok (.multi sources)
  else
    match sources with
    | first :: _ => .ok (.single first.url)
    | [] => .error (.configuration .noSource)

/-- Everything that is compiled for resolved properties. -/
def ofResolved (r : Resolved) : Except Error Rendered := do
  let c := r.config
  let sources ← Source.expand c.asset c.formats c.sharedChain c.overrides (.ofSecure c.secure)
  let poster ← Poster.resolve c.poster c.inherited
  let content ← content c.formats sources
  return ⟨⟨content, poster, r.passthrough, r.fallback⟩, ⟨c⟩⟩

end Rendered

/-- The media element of properties under a context. -/
def Props.render (p : Props) (ctx : Context) : Except Error Rendered := do
  Rendered.ofResolved (← p.resolve ctx)

end VideoDelivery
