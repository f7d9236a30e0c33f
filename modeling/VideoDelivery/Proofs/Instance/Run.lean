import VideoDelivery.Video.Instance

/-!
# Runs of an instance

An instance is rendered any number of times, with properties that may be malformed and a host that
may fail at any call. This module says what each render of such a run does in terms of the renders
before it: a run keeps its *history*, the renders that were asked for with their answers, and every
decision of the instance is read off the history alone.

The host is arbitrary, so its calls are counted from outside: `Host.logged` is the same host with a
list of the calls it got beside its own state, and `erase_renderAll` shows that a run is the same
with the list and without it.

Main results:

* `Run.consistent_renderAll` — after every run the current snapshot is that of the last render that
  succeeded.
* `Run.calls_renderAll_of_current` — with a current snapshot, no further call mounts.
* `Run.render_follows_history` — what a render answers, the one call it makes, and what it leaves.
-/

namespace VideoDelivery

variable {σ : Type}

/-! ## Histories -/

/-- A render that is asked for. -/
structure Request where
  props : Props
  ctx : Context

/-- A render that was asked for, with its answer. -/
structure Turn extends Request where
  answer : Except Error HostAction

namespace Turn

/-- The render succeeded. -/
def Succeeded (t : Turn) : Prop := ∃ action, t.answer = .ok action

/-- The snapshot of a render that succeeded. -/
def snapshot? (t : Turn) : Option Snapshot :=
  match t.answer, t.props.render t.ctx with
  | .ok _, .ok rendered => some rendered.snapshot
  | _, _ => none

theorem snapshot?_of_error {t : Turn} {e : Error} (h : t.answer = .error e) :
    t.snapshot? = none := by
  simp [snapshot?, h]

theorem snapshot?_of_ok {t : Turn} {action : HostAction} {rendered : Rendered}
    (h : t.answer = .ok action) (hRender : t.props.render t.ctx = .ok rendered) :
    t.snapshot? = some rendered.snapshot := by
  simp [snapshot?, h, hRender]

end Turn

/-- The snapshot of the last render that succeeded, if one did. -/
def lastSnapshot? (history : List Turn) : Option Snapshot :=
  (history.filterMap Turn.snapshot?).getLast?

theorem lastSnapshot?_append (history : List Turn) (t : Turn) :
    lastSnapshot? (history ++ [t]) = t.snapshot?.or (lastSnapshot? history) := by
  unfold lastSnapshot?
  rw [List.filterMap_append]
  cases h : t.snapshot? with
  | none => simp [h]
  | some s => simp [h]

/-! ## Calls of a host -/

/-- A call that a host gets. -/
structure HostCall where
  action : HostAction
  element : Element

/-- The host with a list of the calls it got beside its own state. -/
def Host.logged (host : Host σ) : Host (σ × List HostCall) where
  mount e s := ((host.mount e s.1).1, ((host.mount e s.1).2, s.2 ++ [⟨.mount, e⟩]))
  reload e s := ((host.reload e s.1).1, ((host.reload e s.1).2, s.2 ++ [⟨.reload, e⟩]))
  update e s := ((host.update e s.1).1, ((host.update e s.1).2, s.2 ++ [⟨.update, e⟩]))

theorem Host.call_logged (host : Host σ) (action : HostAction) (e : Element)
    (s : σ × List HostCall) :
    host.logged.call action e s =
      ((host.call action e s.1).1, ((host.call action e s.1).2, s.2 ++ [⟨action, e⟩])) := by
  cases action <;> rfl

/-! ## One render -/

namespace Instance

theorem render_of_error (host : Host σ) (i : Instance σ) {p : Props} {ctx : Context} {e : Error}
    (h : p.render ctx = .error e) : i.render host p ctx = (.error e, i) := by
  simp [render, h]

/-- The element could be rendered, so the host is called, and its answer decides. -/
theorem render_of_ok (host : Host σ) (i : Instance σ) {p : Props} {ctx : Context}
    {rendered : Rendered} (h : p.render ctx = .ok rendered) :
    i.render host p ctx =
      match host.call (i.action rendered.snapshot) rendered.element i.hostState with
      | (.error e, state) => (.error e, { i with hostState := state })
      | (.ok (), state) => (.ok (i.action rendered.snapshot), ⟨state, ⟨some rendered.snapshot⟩⟩) := by
  simp only [render, h]
  rfl

/-- The answer is the host's error, or the action it was asked for. -/
theorem answer_of_ok (host : Host σ) (i : Instance σ) {p : Props} {ctx : Context}
    {rendered : Rendered} (h : p.render ctx = .ok rendered) :
    (i.render host p ctx).1 =
      (host.call (i.action rendered.snapshot) rendered.element i.hostState).1.map
        fun _ => i.action rendered.snapshot := by
  rw [render_of_ok host i h]
  rcases host.call (i.action rendered.snapshot) rendered.element i.hostState with ⟨_ | _, s⟩ <;> rfl

theorem eq_action_of_answer {host : Host σ} {i : Instance σ} {p : Props} {ctx : Context}
    {rendered : Rendered} {a : HostAction} (h : p.render ctx = .ok rendered)
    (hAnswer : (i.render host p ctx).1 = .ok a) : a = i.action rendered.snapshot := by
  rw [answer_of_ok host i h] at hAnswer
  cases hHost : (host.call (i.action rendered.snapshot) rendered.element i.hostState).1 with
  | error e =>
    rw [hHost] at hAnswer
    cases hAnswer
  | ok _ =>
    rw [hHost] at hAnswer
    exact (Except.ok.inj hAnswer).symm

theorem action_of_fresh {i : Instance σ} (h : i.tracker.current = none) (next : Snapshot) :
    i.action next = .mount := by
  simp [action, ReloadTracker.needsReload?, h]

theorem action_of_rendered {i : Instance σ} {last : Snapshot} (h : i.tracker.current = some last)
    (next : Snapshot) :
    i.action next = if last.needsReload next then .reload else .update := by
  cases hs : last.needsReload next <;> simp [action, ReloadTracker.needsReload?, h, hs]

theorem action_eq_mount_iff (i : Instance σ) (next : Snapshot) :
    i.action next = .mount ↔ i.tracker.current = none := by
  cases h : i.tracker.current with
  | none => simp [action_of_fresh h]
  | some last => cases hs : last.needsReload next <;> simp [action_of_rendered h, hs]

theorem action_eq_reload_iff (i : Instance σ) (next : Snapshot) :
    i.action next = .reload ↔
      ∃ last, i.tracker.current = some last ∧ last.needsReload next = true := by
  cases h : i.tracker.current with
  | none => simp [action_of_fresh h]
  | some last => simp [action_of_rendered h]

theorem action_eq_update_iff (i : Instance σ) (next : Snapshot) :
    i.action next = .update ↔
      ∃ last, i.tracker.current = some last ∧ last.needsReload next = false := by
  cases h : i.tracker.current with
  | none => simp [action_of_fresh h]
  | some last => cases hs : last.needsReload next <;> simp [action_of_rendered h, hs]

/-- The tracker takes the same decision a second time when it takes the snapshot over. -/
theorem observe_iff_reload (i : Instance σ) (next : Snapshot) :
    (i.tracker.observe next).1 = true ↔ i.action next = .reload := by
  rw [action_eq_reload_iff]
  cases h : i.tracker.current with
  | none => simp [ReloadTracker.observe, ReloadTracker.needsReload?, h]
  | some last => simp [ReloadTracker.observe, ReloadTracker.needsReload?, h]

/-- A render that fails, in whatever way, leaves the current snapshot as it was. -/
theorem tracker_of_failed {host : Host σ} {i : Instance σ} {p : Props} {ctx : Context} {e : Error}
    (h : (i.render host p ctx).1 = .error e) : (i.render host p ctx).2.tracker = i.tracker := by
  cases hRender : p.render ctx with
  | error _ => rw [render_of_error host i hRender]
  | ok rendered =>
    rw [render_of_ok host i hRender] at h ⊢
    split at h
    · rfl
    · cases h

/-- A render that succeeds has an element, and its snapshot becomes the current one. -/
theorem rendered_of_succeeded {host : Host σ} {i : Instance σ} {p : Props} {ctx : Context}
    {action : HostAction} (h : (i.render host p ctx).1 = .ok action) :
    ∃ rendered, p.render ctx = .ok rendered ∧
      (i.render host p ctx).2.tracker.current = some rendered.snapshot := by
  cases hRender : p.render ctx with
  | error _ =>
    rw [render_of_error host i hRender] at h
    cases h
  | ok rendered =>
    refine ⟨rendered, rfl, ?_⟩
    rw [render_of_ok host i hRender] at h ⊢
    split at h
    · cases h
    · rfl

/-! ### With a list of the calls -/

/-- The instance without the list of calls. -/
def erase (i : Instance (σ × List HostCall)) : Instance σ := ⟨i.hostState.1, i.tracker⟩

/-- The calls that a render makes: one if the element can be rendered, and none otherwise. -/
def callsOf (i : Instance σ) (p : Props) (ctx : Context) : List HostCall :=
  match p.render ctx with
  | .error _ => []
  | .ok rendered => [⟨i.action rendered.snapshot, rendered.element⟩]

/-- Noting the calls down changes nothing else, and what is noted down is `callsOf`. -/
theorem render_logged (host : Host σ) (i : Instance (σ × List HostCall)) (p : Props)
    (ctx : Context) :
    i.render host.logged p ctx =
      ((i.erase.render host p ctx).1,
        ⟨((i.erase.render host p ctx).2.hostState, i.hostState.2 ++ i.callsOf p ctx),
          (i.erase.render host p ctx).2.tracker⟩) := by
  cases hRender : p.render ctx with
  | error e => simp [render_of_error _ _ hRender, callsOf, hRender, erase]
  | ok rendered =>
    -- both renders make the same call
    have hAction : i.erase.action rendered.snapshot = i.action rendered.snapshot := rfl
    have hState : i.erase.hostState = i.hostState.1 := rfl
    simp only [render_of_ok _ _ hRender, Host.call_logged, callsOf, hRender, hAction, hState]
    rcases host.call (i.action rendered.snapshot) rendered.element i.hostState.1 with
      ⟨_ | _, state⟩ <;> rfl

end Instance

/-! ## Runs -/

/-- An instance with the renders it was asked for so far. -/
structure Run (σ : Type) where
  history : List Turn
  inst : Instance σ

namespace Run

/-- An instance that has not rendered yet. -/
def start (state : σ) : Run σ := ⟨[], ⟨state, {}⟩⟩

/-- The next render of a run, as it goes into the history. -/
def turn (host : Host σ) (r : Run σ) (q : Request) : Turn :=
  ⟨q, (r.inst.render host q.props q.ctx).1⟩

/-- The run with one more render. -/
def render (host : Host σ) (r : Run σ) (q : Request) : Run σ :=
  ⟨r.history ++ [r.turn host q], (r.inst.render host q.props q.ctx).2⟩

/-- The run with some more renders in turn. -/
def renderAll (host : Host σ) (r : Run σ) (requests : List Request) : Run σ :=
  requests.foldl (render host) r

theorem renderAll_append (host : Host σ) (r : Run σ) (first later : List Request) :
    r.renderAll host (first ++ later) = (r.renderAll host first).renderAll host later := by
  simp [renderAll, List.foldl_append]

/-- What the history says about the instance: the current snapshot is that of the last render that
succeeded, and every render that succeeded has a snapshot. -/
structure Consistent (r : Run σ) : Prop where
  current : r.inst.tracker.current = lastSnapshot? r.history
  rendered : ∀ t ∈ r.history, t.Succeeded → t.snapshot?.isSome

theorem consistent_start (state : σ) : (start state).Consistent :=
  ⟨rfl, by simp [start]⟩

/-- A turn that succeeded has a snapshot, and it is the one that is taken over. -/
theorem turn_succeeded {host : Host σ} {r : Run σ} {q : Request} (h : (r.turn host q).Succeeded) :
    ∃ s, (r.turn host q).snapshot? = some s ∧ (r.render host q).inst.tracker.current = some s := by
  obtain ⟨action, hAnswer⟩ := h
  obtain ⟨rendered, hRender, hCurrent⟩ := Instance.rendered_of_succeeded hAnswer
  exact ⟨rendered.snapshot, Turn.snapshot?_of_ok hAnswer hRender, hCurrent⟩

/-- A turn that failed leaves the current snapshot as it was. -/
theorem turn_failed {host : Host σ} {r : Run σ} {q : Request} (h : ¬ (r.turn host q).Succeeded) :
    (r.turn host q).snapshot? = none ∧ (r.render host q).inst.tracker = r.inst.tracker := by
  cases hAnswer : (r.turn host q).answer with
  | error e => exact ⟨Turn.snapshot?_of_error hAnswer, Instance.tracker_of_failed hAnswer⟩
  | ok action => exact absurd ⟨action, hAnswer⟩ h

theorem consistent_render {host : Host σ} {r : Run σ} (h : r.Consistent) (q : Request) :
    (r.render host q).Consistent where
  current := by
    show _ = lastSnapshot? (r.history ++ [r.turn host q])
    rw [lastSnapshot?_append]
    -- a success is the new last one, and a failure leaves the last one as it was
    by_cases hTurn : (r.turn host q).Succeeded
    · obtain ⟨s, hSnapshot, hCurrent⟩ := turn_succeeded hTurn
      rw [hCurrent, hSnapshot]
      rfl
    · obtain ⟨hSnapshot, hTracker⟩ := turn_failed hTurn
      rw [hTracker, hSnapshot, h.current]
      rfl
  rendered := by
    intro t ht hSucceeded
    rcases List.mem_append.mp ht with hPast | hNew
    · exact h.rendered t hPast hSucceeded
    · rw [List.mem_singleton.mp hNew] at hSucceeded ⊢
      obtain ⟨s, hSnapshot, -⟩ := turn_succeeded hSucceeded
      rw [hSnapshot]
      rfl

theorem consistent_renderAll {host : Host σ} {r : Run σ} (h : r.Consistent)
    (requests : List Request) : (r.renderAll host requests).Consistent := by
  -- every render keeps what the history says, whatever it answers
  induction requests generalizing r with
  | nil => exact h
  | cons q rest ih => exact ih (consistent_render h q)

theorem lastSnapshot?_eq_none_iff {r : Run σ} (h : r.Consistent) :
    lastSnapshot? r.history = none ↔ ∀ t ∈ r.history, ¬ t.Succeeded := by
  rw [lastSnapshot?, List.getLast?_eq_none_iff, List.filterMap_eq_nil_iff]
  constructor
  · intro hNone t ht hSucceeded
    have hSome := h.rendered t ht hSucceeded
    rw [hNone t ht] at hSome
    cases hSome
  · intro hFailed t ht
    cases hAnswer : t.answer with
    | error e => exact Turn.snapshot?_of_error hAnswer
    | ok action => exact absurd ⟨action, hAnswer⟩ (hFailed t ht)

/-! ## The calls of a run -/

/-- The run without the list of calls. -/
def erase (r : Run (σ × List HostCall)) : Run σ := ⟨r.history, r.inst.erase⟩

/-- The calls that the host of a run got. -/
def calls (r : Run (σ × List HostCall)) : List HostCall := r.inst.hostState.2

theorem erase_render (host : Host σ) (r : Run (σ × List HostCall)) (q : Request) :
    (r.render host.logged q).erase = r.erase.render host q := by
  simp only [erase, render, turn, Instance.render_logged]
  rfl

/-- Noting the calls down changes nothing else in a run. -/
theorem erase_renderAll (host : Host σ) (r : Run (σ × List HostCall)) (requests : List Request) :
    (r.renderAll host.logged requests).erase = r.erase.renderAll host requests := by
  induction requests generalizing r with
  | nil => rfl
  | cons q rest ih =>
    have hRest := ih (r.render host.logged q)
    rw [erase_render] at hRest
    exact hRest

theorem calls_render (host : Host σ) (r : Run (σ × List HostCall)) (q : Request) :
    (r.render host.logged q).calls = r.calls ++ r.inst.callsOf q.props q.ctx := by
  simp only [calls, render, Instance.render_logged]

theorem current_isSome_render (host : Host σ) {r : Run σ} (h : r.inst.tracker.current.isSome)
    (q : Request) : (r.render host q).inst.tracker.current.isSome := by
  by_cases hTurn : (r.turn host q).Succeeded
  · obtain ⟨s, -, hCurrent⟩ := turn_succeeded hTurn
    rw [hCurrent]
    rfl
  · rw [(turn_failed hTurn).2]
    exact h

/-- An instance with a current snapshot does not mount. -/
theorem no_mount_of_current {r : Run (σ × List HostCall)} (h : r.inst.tracker.current.isSome)
    (q : Request) : ∀ call ∈ r.inst.callsOf q.props q.ctx, call.action ≠ .mount := by
  intro call hCall hMount
  unfold Instance.callsOf at hCall
  split at hCall
  · cases hCall
  · rw [List.mem_singleton.mp hCall, Instance.action_eq_mount_iff] at hMount
    rw [hMount] at h
    cases h

theorem calls_renderAll_of_current (host : Host σ) {r : Run (σ × List HostCall)}
    (h : r.inst.tracker.current.isSome) (later : List Request) :
    ∃ more, (r.renderAll host.logged later).calls = r.calls ++ more ∧
      ∀ call ∈ more, call.action ≠ .mount := by
  induction later generalizing r with
  | nil => exact ⟨[], by simp [renderAll], by simp⟩
  | cons q rest ih =>
    obtain ⟨more, hMore, hNoMount⟩ := ih (current_isSome_render host.logged h q)
    refine ⟨r.inst.callsOf q.props q.ctx ++ more, ?_, ?_⟩
    · show ((r.render host.logged q).renderAll host.logged rest).calls = _
      rw [hMore, calls_render, List.append_assoc]
    · intro call hCall
      rcases List.mem_append.mp hCall with hNow | hLater
      · exact no_mount_of_current h q call hNow
      · exact hNoMount call hLater

/-! ## What a render does after any history -/

/--
**A render follows the history.** An instance with any host is rendered any number of times, and
then once more, with properties and contexts that may be malformed and calls that may fail. The list
of calls belongs to the run as it is without the list, and then:

* the current snapshot is that of the last render that succeeded;
* without an element the render makes no call, changes nothing and answers the error;
* with an element it makes one call, for that element. The call mounts exactly when no render has
  succeeded before, reloads exactly when the snapshot differs from that of the last success, and
  updates otherwise. The answer is the host's error or the action, and on success the tracker,
  which decides again, finds a reload exactly when the action was one;
* once a render has succeeded no later call mounts;
* a render that failed leaves every decision as it was, so the next one takes the same.
-/
theorem render_follows_history (host : Host σ) (state : σ) (requests : List Request)
    (q : Request) :
    let before := (start (state, [])).renderAll host.logged requests
    let after := before.render host.logged q
    let answer := (before.turn host.logged q).answer
    after.erase = (start state).renderAll host (requests ++ [q]) ∧
    after.inst.tracker.current = lastSnapshot? after.history ∧
    (∀ e, q.props.render q.ctx = .error e → answer = .error e ∧ after.inst = before.inst) ∧
    (∀ rendered, q.props.render q.ctx = .ok rendered →
      ∃ action, after.calls = before.calls ++ [⟨action, rendered.element⟩] ∧
        (action = .mount ↔ ∀ t ∈ before.history, ¬ t.Succeeded) ∧
        (action = .reload ↔ ∃ last, lastSnapshot? before.history = some last ∧
          last.needsReload rendered.snapshot = true) ∧
        (action = .update ↔ ∃ last, lastSnapshot? before.history = some last ∧
          last.needsReload rendered.snapshot = false) ∧
        answer = (host.call action rendered.element before.inst.hostState.1).1.map
          (fun _ => action) ∧
        (∀ a, answer = .ok a →
          ((before.inst.tracker.observe rendered.snapshot).1 = true ↔ a = .reload))) ∧
    ((∃ t ∈ before.history, t.Succeeded) → ∀ later, ∃ more,
      (before.renderAll host.logged later).calls = before.calls ++ more ∧
        ∀ call ∈ more, call.action ≠ .mount) ∧
    (∀ e, answer = .error e → ∀ next, after.inst.action next = before.inst.action next) := by
  intro before after answer
  have hBefore : before.Consistent := consistent_renderAll (consistent_start _) requests
  have hAfter : after.Consistent := consistent_render hBefore q
  refine ⟨?_, hAfter.current, ?_, ?_, ?_, ?_⟩
  · rw [renderAll_append]
    show (before.render host.logged q).erase = ((start state).renderAll host requests).render host q
    rw [erase_render, erase_renderAll]
    rfl
  · intro e hRender
    have hTurn := Instance.render_of_error host.logged before.inst hRender
    exact ⟨congrArg Prod.fst hTurn, congrArg Prod.snd hTurn⟩
  · intro rendered hRender
    have hAnswer := Instance.answer_of_ok host.logged before.inst hRender
    rw [Host.call_logged] at hAnswer
    refine ⟨before.inst.action rendered.snapshot, ?_, ?_, ?_, ?_, hAnswer, ?_⟩
    · show (before.render host.logged q).calls = _
      rw [calls_render, Instance.callsOf, hRender]
    · rw [Instance.action_eq_mount_iff, hBefore.current, lastSnapshot?_eq_none_iff hBefore]
    · rw [Instance.action_eq_reload_iff, hBefore.current]
    · rw [Instance.action_eq_update_iff, hBefore.current]
    · intro a hOk
      rw [Instance.eq_action_of_answer hRender hOk]
      exact Instance.observe_iff_reload before.inst rendered.snapshot
  · rintro ⟨t, ht, hSucceeded⟩ later
    apply calls_renderAll_of_current
    rw [hBefore.current, Option.isSome_iff_ne_none]
    exact fun hNone => (lastSnapshot?_eq_none_iff hBefore).mp hNone t ht hSucceeded
  · intro e hFailed next
    have hTracker : after.inst.tracker = before.inst.tracker :=
      Instance.tracker_of_failed hFailed
    rw [Instance.action, hTracker, Instance.action]

end Run

end VideoDelivery
