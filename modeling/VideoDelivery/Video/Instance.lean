import VideoDelivery.Video.Reload
import VideoDelivery.Video.Render

/-!
# Instances and their hosts

An instance is one video element that is rendered again and again. Its host owns the media element
and is called once per render: to mount the element at first, to recreate it when the snapshot has
changed, and to update it in place otherwise. A host may keep any state and may fail at any call.

A snapshot becomes the current one only when the call has succeeded. After a failure the next
render takes the same decision again.
-/

namespace VideoDelivery

/-- What an instance asks of its host. -/
inductive HostAction where
  | mount
  | reload
  | update
  deriving DecidableEq

/-- A host with state `σ`: what each call answers and the state after it. -/
structure Host (σ : Type) where
  mount : Element → σ → Except Error Unit × σ
  reload : Element → σ → Except Error Unit × σ
  update : Element → σ → Except Error Unit × σ

/-- The call of an action. -/
def Host.call {σ : Type} (host : Host σ) : HostAction → Element → σ → Except Error Unit × σ
  | .mount => host.mount
  | .reload => host.reload
  | .update => host.update

/-- An instance: the state of its host and its tracker. -/
structure Instance (σ : Type) where
  hostState : σ
  tracker : ReloadTracker := {}

namespace Instance

variable {σ : Type}

/-- What has to be done for the next snapshot. -/
def action (i : Instance σ) (next : Snapshot) : HostAction :=
  match i.tracker.needsReload? next with
  | none => .mount
  | some true => .reload
  | some false => .update

/-- One render: the properties are rendered, the host is called, and the snapshot is taken over if
the call succeeds. -/
def render (host : Host σ) (i : Instance σ) (p : Props) (ctx : Context) :
    Except Error HostAction × Instance σ :=
  match p.render ctx with
  | .error e => (.error e, i)
  | .ok rendered =>
    let action := i.action rendered.snapshot
    match host.call action rendered.element i.hostState with
    | (.error e, state) => (.error e, { i with hostState := state })
    | (.ok (), state) => (.ok action, ⟨state, (i.tracker.observe rendered.snapshot).2⟩)

end Instance

/-! ## A host that records its calls -/

/-- The calls since the element was last mounted, in order. -/
structure Recording where
  calls : List (HostAction × Element) := []

namespace Recording

/-- How many of the calls were reloads. -/
def reloadCount (r : Recording) : Nat := r.calls.countP fun call => call.1 = .reload

/-- The element of the last call. -/
def last? (r : Recording) : Option Element := r.calls.getLast?.map (·.2)

/-- The host that records every call. Mounting an element starts the record anew. -/
def host : Host Recording where
  mount element _ := (.ok (), ⟨[(.mount, element)]⟩)
  reload element r := (.ok (), ⟨r.calls ++ [(.reload, element)]⟩)
  update element r := (.ok (), ⟨r.calls ++ [(.update, element)]⟩)

end Recording

end VideoDelivery
