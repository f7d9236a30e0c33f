import VideoDelivery.Proofs.Instance.Run

/-!
# What the recording host records

A host outlives its instances: calls can be made on it directly, an instance can take it over, and
when the instance is done the host can go to the next one. All of these are *uses* of the host, and
`Host.log` lists every call that they make. Whatever the uses are, the host ends in the state that
these calls alone bring it to, so what holds after any list of calls holds after any uses.

The recording host forgets at a mount. Its record is the end of the log that starts with the last
mount, and reloads before that are not counted.

* `Host.keeps_useAll` — what every call keeps, every use keeps.
* `Host.useAll_eq_callAll` — uses leave a host as their calls do.
* `Recording.since_callAll` — the record after any calls.
* `Recording.reports` — **what the record says of the log**; it is the whole log exactly when nothing
  but the first call mounts.
* `Recording.forgets` — two instances on one host leave a record without the calls of the first one.
-/

namespace VideoDelivery

variable {σ : Type}

/-! ## Uses of a host -/

/-- What a host is used for in turn. -/
inductive HostUse where
  /-- Calls made on the host itself. -/
  | direct (calls : List HostCall)
  /-- The renders of a new instance that owns the host. -/
  | owned (requests : List Request)

namespace Host

/-- The state of a host after some calls, whatever they answer. -/
def callAll (host : Host σ) (s : σ) (calls : List HostCall) : σ :=
  calls.foldl (fun s call => (host.call call.action call.element s).2) s

/-- The state of a host after one use. -/
def use (host : Host σ) (s : σ) : HostUse → σ
  | .direct calls => host.callAll s calls
  | .owned requests => ((Run.start s).renderAll host requests).inst.hostState

/-- The state of a host after some uses. -/
def useAll (host : Host σ) (s : σ) (uses : List HostUse) : σ := uses.foldl host.use s

/-- All the calls that some uses of a host make. -/
def log (host : Host σ) (s : σ) (uses : List HostUse) : List HostCall :=
  (host.logged.useAll (s, []) uses).2

theorem callAll_append (host : Host σ) (s : σ) (first later : List HostCall) :
    host.callAll s (first ++ later) = host.callAll (host.callAll s first) later :=
  List.foldl_append

end Host

/-! ## What every call keeps -/

/-- The property holds after every call if it held before. -/
def Host.Keeps (host : Host σ) (P : σ → Prop) : Prop :=
  ∀ action e s, P s → P (host.call action e s).2

section

variable {host : Host σ} {P : σ → Prop}

theorem Instance.keeps_render (h : host.Keeps P) {i : Instance σ} (hi : P i.hostState) (p : Props)
    (ctx : Context) : P (i.render host p ctx).2.hostState := by
  cases hRender : p.render ctx with
  | error e =>
    rw [render_of_error host i hRender]
    exact hi
  | ok rendered =>
    rw [render_of_ok host i hRender]
    -- the state is that after the call, whether or not it succeeded
    have hcall := h (i.action rendered.snapshot) rendered.element i.hostState hi
    rcases hanswer : host.call (i.action rendered.snapshot) rendered.element i.hostState with
      ⟨_ | _, state⟩ <;> rw [hanswer] at hcall <;> exact hcall

theorem Run.keeps_renderAll (h : host.Keeps P) {r : Run σ} (hr : P r.inst.hostState)
    (requests : List Request) : P (r.renderAll host requests).inst.hostState := by
  induction requests generalizing r with
  | nil => exact hr
  | cons q rest ih => exact ih (r := r.render host q) (Instance.keeps_render h hr q.props q.ctx)

namespace Host

theorem keeps_callAll (h : host.Keeps P) {s : σ} (hs : P s) (calls : List HostCall) :
    P (host.callAll s calls) := by
  induction calls generalizing s with
  | nil => exact hs
  | cons call rest ih => exact ih (h call.action call.element s hs)

theorem keeps_use (h : host.Keeps P) {s : σ} (hs : P s) (u : HostUse) : P (host.use s u) := by
  cases u with
  | direct calls => exact keeps_callAll h hs calls
  | owned requests => exact Run.keeps_renderAll h hs requests

/-- What every call keeps, every use keeps. -/
theorem keeps_useAll (h : host.Keeps P) {s : σ} (hs : P s) (uses : List HostUse) :
    P (host.useAll s uses) := by
  induction uses generalizing s with
  | nil => exact hs
  | cons u rest ih => exact ih (keeps_use h hs u)

end Host

end

/-! ## The log -/

namespace Host

theorem fst_callAll_logged (host : Host σ) (s : σ × List HostCall) (calls : List HostCall) :
    (host.logged.callAll s calls).1 = host.callAll s.1 calls := by
  induction calls generalizing s with
  | nil => rfl
  | cons call rest ih =>
    show (host.logged.callAll (host.logged.call call.action call.element s).2 rest).1 = _
    rw [ih, call_logged]
    rfl

theorem fst_use_logged (host : Host σ) (s : σ × List HostCall) (u : HostUse) :
    (host.logged.use s u).1 = host.use s.1 u := by
  cases u with
  | direct calls => exact host.fst_callAll_logged s calls
  | owned requests =>
    exact congrArg (·.inst.hostState) (Run.erase_renderAll host (Run.start s) requests)

/-- Noting the calls down changes nothing else. -/
theorem fst_useAll_logged (host : Host σ) (s : σ × List HostCall) (uses : List HostUse) :
    (host.logged.useAll s uses).1 = host.useAll s.1 uses := by
  induction uses generalizing s with
  | nil => rfl
  | cons u rest ih =>
    show (host.logged.useAll (host.logged.use s u) rest).1 = host.useAll (host.use s.1 u) rest
    rw [ih, fst_use_logged]

/-- Uses leave a host as their calls do. -/
theorem useAll_eq_callAll (host : Host σ) (s : σ) (uses : List HostUse) :
    host.useAll s uses = host.callAll s (host.log s uses) := by
  -- at any time the state is that after the calls noted down so far
  have hkeeps : host.logged.Keeps fun t => t.1 = host.callAll s t.2 := by
    rintro action e ⟨t, calls⟩ (rfl : t = host.callAll s calls)
    rw [call_logged]
    exact (host.callAll_append s calls [⟨action, e⟩]).symm
  have hreplay := keeps_useAll hkeeps (s := (s, [])) rfl uses
  rwa [fst_useAll_logged] at hreplay

end Host

/-! ## The record -/

/-- A call as it stands in a record. -/
def HostCall.entry (call : HostCall) : HostAction × Element := (call.action, call.element)

/-- The call is a reload. -/
def HostCall.isReload (call : HostCall) : Bool := call.action = .reload

namespace Recording

/-- The record holds the recent calls, and among these only the first can be a mount. It is one if
there were any calls before. -/
structure Since (r : Recording) (forgotten recent : List HostCall) : Prop where
  calls : r.calls = recent.map HostCall.entry
  mounted : forgotten ≠ [] → ∃ e, recent.head? = some ⟨.mount, e⟩
  unmounted : ∀ call ∈ recent.tail, call.action ≠ .mount

section

variable {r : Recording} {forgotten recent : List HostCall}

/-- A mount forgets all that was called before, whatever it was. -/
theorem since_mount (r : Recording) (before : List HostCall) (e : Element) :
    (host.call .mount e r).2.Since before [⟨.mount, e⟩] where
  calls := rfl
  mounted _ := ⟨e, rfl⟩
  unmounted := nofun

/-- Any other call is put at the end. -/
theorem Since.append (h : r.Since forgotten recent) {action : HostAction}
    (haction : action ≠ .mount) (e : Element) :
    (host.call action e r).2.Since forgotten (recent ++ [⟨action, e⟩]) where
  calls := by
    have hcalls : (host.call action e r).2.calls = r.calls ++ [(action, e)] := by
      cases action with
      | mount => exact absurd rfl haction
      | reload | update => rfl
    rw [hcalls, h.calls, List.map_append]
    rfl
  mounted hne := by
    obtain ⟨first, hfirst⟩ := h.mounted hne
    exact ⟨first, by rw [List.head?_append, hfirst, Option.some_or]⟩
  unmounted call hcall := by
    -- the new call is in the tail only if it is not the first one
    have hmem : call ∈ recent.tail ∨ call = ⟨action, e⟩ := by
      cases recent with
      | nil => exact absurd hcall List.not_mem_nil
      | cons first rest => simpa using hcall
    rcases hmem with htail | rfl
    · exact h.unmounted call htail
    · exact haction

/-- What a record says before some calls, it says after them. -/
theorem Since.callAll (h : r.Since forgotten recent) (calls : List HostCall) :
    ∃ forgotten' recent', forgotten ++ recent ++ calls = forgotten' ++ recent' ∧
      (host.callAll r calls).Since forgotten' recent' := by
  induction calls generalizing r forgotten recent with
  | nil => exact ⟨forgotten, recent, List.append_nil _, h⟩
  | cons call rest ih =>
    obtain ⟨action, e⟩ := call
    by_cases haction : action = .mount
    · subst haction
      obtain ⟨forgotten', recent', heq, hsince⟩ := ih (since_mount r (forgotten ++ recent) e)
      exact ⟨forgotten', recent', by rw [← heq, List.append_assoc _ _ rest]; rfl, hsince⟩
    · obtain ⟨forgotten', recent', heq, hsince⟩ := ih (h.append haction e)
      exact ⟨forgotten', recent', by rw [← heq]; simp, hsince⟩

end

/-- The record after any calls. -/
theorem since_callAll (calls : List HostCall) :
    ∃ forgotten recent, calls = forgotten ++ recent ∧
      (host.callAll {} calls).Since forgotten recent := by
  have hnew : Since {} [] [] := ⟨rfl, fun h => absurd rfl h, nofun⟩
  exact hnew.callAll calls

/-- What a record says of the log it was left by. -/
structure Reports (r : Recording) (log : List HostCall) : Prop where
  /-- It is the end of the log, from the last mount on; reloads before that are not counted. -/
  since : ∃ forgotten recent, log = forgotten ++ recent ∧ r.Since forgotten recent ∧
    r.reloadCount + forgotten.countP HostCall.isReload = log.countP HostCall.isReload
  /-- It is the whole log exactly when nothing but the first call mounts. -/
  complete : r.calls = log.map HostCall.entry ↔ ∀ call ∈ log.tail, call.action ≠ .mount
  /-- The last element is that of the last call. -/
  last : r.last? = log.getLast?.map HostCall.element

section

variable {r : Recording} {forgotten recent : List HostCall}

theorem Since.reloadCount_eq (h : r.Since forgotten recent) :
    r.reloadCount = recent.countP HostCall.isReload := by
  rw [reloadCount, h.calls, List.countP_map]
  rfl

theorem Since.complete_iff (h : r.Since forgotten recent) :
    r.calls = (forgotten ++ recent).map HostCall.entry ↔
      ∀ call ∈ (forgotten ++ recent).tail, call.action ≠ .mount := by
  cases forgotten with
  | nil => exact iff_of_true h.calls h.unmounted
  | cons first rest =>
    obtain ⟨e, hfirst⟩ := h.mounted (List.cons_ne_nil first rest)
    refine iff_of_false (fun hcalls => ?_) fun hunmounted => ?_
    · -- the record is shorter
      have hlength := congrArg List.length (h.calls.symm.trans hcalls)
      simp only [List.length_map, List.length_append, List.length_cons] at hlength
      omega
    · have hmem : (⟨.mount, e⟩ : HostCall) ∈ recent := List.mem_of_mem_head? hfirst
      exact hunmounted _ (List.mem_append_right rest hmem) rfl

theorem Since.last?_eq (h : r.Since forgotten recent) :
    r.last? = (forgotten ++ recent).getLast?.map HostCall.element := by
  have hlast : r.last? = recent.getLast?.map HostCall.element := by
    rw [last?, h.calls, List.getLast?_map, Option.map_map]
    rfl
  rw [hlast, List.getLast?_append]
  cases hrecent : recent.getLast? with
  | some call => rfl
  | none =>
    -- without a recent call there was none before either
    have hnil := List.getLast?_eq_none_iff.mp hrecent
    by_cases hforgotten : forgotten = []
    · rw [hforgotten]
      rfl
    · obtain ⟨e, hfirst⟩ := h.mounted hforgotten
      rw [hnil] at hfirst
      cases hfirst

end

theorem reports_callAll (calls : List HostCall) : (host.callAll {} calls).Reports calls := by
  obtain ⟨forgotten, recent, rfl, hsince⟩ := since_callAll calls
  refine ⟨⟨forgotten, recent, rfl, hsince, ?_⟩, hsince.complete_iff, hsince.last?_eq⟩
  rw [hsince.reloadCount_eq, List.countP_append, Nat.add_comm]

end Recording

/-! ## One instance -/

/-- On a host that never fails, an instance mounts with its first call at most. -/
theorem Run.unmounted_of_fresh {host : Host σ}
    (hok : ∀ action e s, (host.call action e s).1 = .ok ()) {r : Run (σ × List HostCall)}
    (hfresh : r.inst.tracker.current = none) (hcalls : r.calls = []) (requests : List Request) :
    ∀ call ∈ (r.renderAll host.logged requests).calls.tail, call.action ≠ .mount := by
  induction requests generalizing r with
  | nil =>
    show ∀ call ∈ r.calls.tail, _
    rw [hcalls]
    nofun
  | cons q rest ih =>
    show ∀ call ∈ ((r.render host.logged q).renderAll host.logged rest).calls.tail, _
    cases hRender : q.props.render q.ctx with
    | error e =>
      -- no call was made, and the instance is as it was
      have hinst : (r.render host.logged q).inst = r.inst :=
        congrArg Prod.snd (Instance.render_of_error host.logged r.inst hRender)
      exact ih (by rw [hinst, hfresh]) (by rw [calls, hinst]; exact hcalls)
    | ok rendered =>
      -- the one call succeeds, and no later one mounts
      have hanswer := Instance.answer_of_ok host.logged r.inst hRender
      rw [Host.call_logged, hok] at hanswer
      have hsucceeded : (r.turn host.logged q).Succeeded := ⟨_, hanswer⟩
      obtain ⟨s, -, hcurrent⟩ := turn_succeeded hsucceeded
      obtain ⟨more, hmore, hunmounted⟩ :=
        calls_renderAll_of_current host (Option.isSome_of_mem hcurrent) rest
      rw [hmore, calls_render, hcalls, Instance.callsOf, hRender]
      exact hunmounted

namespace Recording

theorem call_host_ok (action : HostAction) (e : Element) (r : Recording) :
    (host.call action e r).1 = .ok () := by
  cases action <;> rfl

/-- **What the record says of the log.** A new recording host is used in any way, directly and by
one instance after the other. Then it holds the calls since the last mount, in order, and counts the
reloads among these. So it has the whole log exactly when nothing but the first call mounts, as it is
when one instance alone makes all the calls; the last element is always that of the last call. -/
theorem reports (uses : List HostUse) :
    (host.useAll {} uses).Reports (host.log {} uses) ∧
      ∀ requests, uses = [.owned requests] →
        (host.useAll {} uses).calls = (host.log {} uses).map HostCall.entry := by
  have hreports : (host.useAll {} uses).Reports (host.log {} uses) := by
    rw [host.useAll_eq_callAll]
    exact reports_callAll _
  refine ⟨hreports, ?_⟩
  rintro requests rfl
  exact hreports.complete.mpr (Run.unmounted_of_fresh call_host_ok rfl rfl requests)

end Recording

/-- A render of the asset with an identifier. -/
def Request.ofAsset (id : String) : Request where
  props := Props.empty.attr "cloudName" (.str "demo") |>.attr "publicId" (.str id)
  ctx := .empty

/-- One instance that reloads once, and then another one. -/
def HostUse.twoInstances : List HostUse :=
  [.owned [.ofAsset "dog", .ofAsset "cat"], .owned [.ofAsset "dog"]]

/-- **A record can be without calls that were made.** What one instance has done is forgotten when
the next one mounts, and its reloads are not counted any more. -/
theorem Recording.forgets :
    (¬ ∀ uses, (host.useAll {} uses).calls = (host.log {} uses).map HostCall.entry) ∧
      ¬ ∀ uses, (host.useAll {} uses).reloadCount =
        (host.log {} uses).countP HostCall.isReload := by
  constructor
  · intro hwhole
    have hlength := congrArg List.length (hwhole HostUse.twoInstances)
    exact absurd hlength (by decide +kernel)
  · intro hcounted
    exact absurd (hcounted HostUse.twoInstances) (by decide +kernel)

end VideoDelivery
