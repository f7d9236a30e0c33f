import VideoDelivery.Video.Snapshot

/-!
# Reload tracking

A tracker remembers the snapshot an element was last rendered from, and tells of each new one
whether it makes a reload necessary. The first one never does: it mounts the element.
-/

namespace VideoDelivery

/-- The snapshot that is current, if there is one. -/
structure ReloadTracker where
  current : Option Snapshot := none

namespace ReloadTracker

/-- The next snapshot makes a reload necessary; not known before the first one. -/
def needsReload? (t : ReloadTracker) (next : Snapshot) : Option Bool :=
  t.current.map fun previous => previous.needsReload next

/-- Takes a snapshot as the current one and tells whether it makes a reload necessary. -/
def observe (t : ReloadTracker) (next : Snapshot) : Bool × ReloadTracker :=
  ((t.needsReload? next).getD false, ⟨some next⟩)

end ReloadTracker

end VideoDelivery
