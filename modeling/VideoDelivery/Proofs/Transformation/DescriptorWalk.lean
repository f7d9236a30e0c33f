import VideoDelivery.Proofs.Text.Trimmed
import VideoDelivery.Video.Render
import Mathlib.Data.List.Sort

/-!
# The walk through descriptors

The chain of a video takes its steps from all descriptors among the children. To say which step
comes when, every descriptor gets an *address*: its place among the children, then the place among
the children of that one, and so on down to itself. Addresses are compared place by place, and one
that ends comes before those that go on. The walk is in the order of the addresses: a descriptor
comes before those within it, and siblings come in their order.

Only two things about the children reach a resolved video, this walk and the texts at the top. So
the children can be replaced by a descriptor without children for each step.

* `Child.map_addresses` — the addresses lead to the steps of the walk, one by one.
* `Child.mem_addresses_iff` — every descriptor has its address among them.
* `Child.pairwise_addresses` — the addresses rise.
* `Child.eq_allSteps_iff` — **the walk is the pre-order**, with neither loss nor repetition.
* `Child.walked` — **what becomes of children**, texts and flat forms included.
-/

namespace VideoDelivery.Child

/-! ## Addresses -/

/-- The step at an address within a child; the child itself is at the empty address. -/
def stepWithin? : List Nat → Child → Option Step
  | _, .text _ => none
  | [], .descriptor step _ => some step
  | place :: inner, .descriptor _ children => children[place]?.bind (stepWithin? inner)

/-- The step of the descriptor at an address among some children. -/
def stepAt? (children : List Child) : List Nat → Option Step
  | [] => none
  | place :: inner => children[place]?.bind (stepWithin? inner)

/-- The steps are those of the descriptors in pre-order: there is one for each address that a
descriptor has, and the addresses rise. -/
def InPreorder (steps : List Step) (children : List Child) : Prop :=
  ∃ addresses : List (List Nat), addresses.Pairwise (· < ·) ∧
    (∀ a, a ∈ addresses ↔ (stepAt? children a).isSome = true) ∧
    addresses.map (stepAt? children) = steps.map some

mutual

/-- The addresses of the descriptors within a child, itself included. -/
def addressesWithin : Child → List (List Nat)
  | .text _ => []
  | .descriptor _ children => [] :: addresses 0 children
termination_by structural c => c

/-- The addresses of the descriptors among some children, the first of which has the given place. -/
def addresses (place : Nat) : List Child → List (List Nat)
  | [] => []
  | c :: rest => (addressesWithin c).map (place :: ·) ++ addresses (place + 1) rest
termination_by structural cs => cs

end

/-- An address leads to a child and goes on within it. -/
theorem mem_addresses {cs : List Child} {place : Nat} {a : List Nat} :
    a ∈ addresses place cs ↔ ∃ i inner c, a = (place + i) :: inner ∧ cs[i]? = some c ∧
      inner ∈ addressesWithin c := by
  induction cs generalizing place with
  | nil => simp [addresses]
  | cons c rest ih =>
    rw [addresses, List.mem_append, List.mem_map, ih]
    constructor
    · rintro (⟨inner, hinner, rfl⟩ | ⟨i, inner, d, rfl, hd, hinner⟩)
      · exact ⟨0, inner, c, rfl, rfl, hinner⟩
      · exact ⟨i + 1, inner, d, by rw [Nat.add_right_comm, Nat.add_assoc], hd, hinner⟩
    · rintro ⟨i, inner, d, rfl, hd, hinner⟩
      cases i with
      | zero =>
        obtain rfl : c = d := Option.some.inj hd
        exact .inl ⟨inner, hinner, rfl⟩
      | succ i =>
        exact .inr ⟨i, inner, d, by rw [Nat.add_right_comm, Nat.add_assoc], hd, hinner⟩

/-! ### They lead to the steps -/

mutual

theorem map_addressesWithin : ∀ c : Child,
    (addressesWithin c).map (stepWithin? · c) = c.steps.map some
  | .text _ => rfl
  | .descriptor step children => by
    have hinner : (addresses 0 children).map (stepWithin? · (.descriptor step children)) =
        (addresses 0 children).map (stepAt? ([] ++ children)) := by
      refine List.map_congr_left fun a ha => ?_
      obtain ⟨i, inner, c, rfl, -, -⟩ := mem_addresses.mp ha
      rfl
    rw [addressesWithin, steps, List.map_cons, List.map_cons, hinner]
    exact congrArg (some step :: ·) (map_addresses [] children)

/-- The addresses lead to the steps of the walk, whatever children stand before. -/
theorem map_addresses : ∀ before cs : List Child,
    (addresses before.length cs).map (stepAt? (before ++ cs)) = (allSteps cs).map some
  | _, [] => rfl
  | before, c :: rest => by
    have hhere : ∀ a, stepAt? (before ++ c :: rest) (before.length :: a) = stepWithin? a c := by
      intro a
      rw [stepAt?, List.getElem?_append_right (Nat.le_refl _), Nat.sub_self]
      rfl
    have hrest := map_addresses (before ++ [c]) rest
    rw [List.length_append, List.append_assoc] at hrest
    rw [addresses, allSteps, List.map_append, List.map_append, List.map_map]
    congr 1
    · rw [← map_addressesWithin c]
      exact List.map_congr_left fun a _ => hhere a

end

/-! ### Every descriptor has one -/

theorem cons_mem_addresses {cs : List Child} {place : Nat} {inner : List Nat} :
    place :: inner ∈ addresses 0 cs ↔ ∃ c, cs[place]? = some c ∧ inner ∈ addressesWithin c := by
  rw [mem_addresses]
  constructor
  · rintro ⟨i, inner, c, heq, hc, hinner⟩
    obtain ⟨rfl, rfl⟩ := List.cons.inj heq
    exact ⟨c, by rwa [Nat.zero_add], hinner⟩
  · rintro ⟨c, hc, hinner⟩
    exact ⟨place, inner, c, by rw [Nat.zero_add], hc, hinner⟩

theorem isSome_bind_stepWithin?_iff {cs : List Child} {place : Nat} {inner : List Nat} :
    (cs[place]?.bind (stepWithin? inner)).isSome = true ↔
      ∃ c, cs[place]? = some c ∧ (stepWithin? inner c).isSome = true := by
  cases cs[place]? <;> simp

theorem mem_addressesWithin_iff {a : List Nat} {c : Child} :
    a ∈ addressesWithin c ↔ (stepWithin? a c).isSome = true := by
  induction a generalizing c with
  | nil => cases c <;> simp [addressesWithin, stepWithin?]
  | cons place inner ih =>
    cases c with
    | text t => simp [addressesWithin, stepWithin?]
    | descriptor step children =>
      have hne : place :: inner ≠ [] := List.cons_ne_nil _ _
      rw [addressesWithin, List.mem_cons, or_iff_right hne, cons_mem_addresses, stepWithin?,
        isSome_bind_stepWithin?_iff]
      simp only [ih]

/-- Every descriptor has its address among them, and nothing else has one. -/
theorem mem_addresses_iff {cs : List Child} {a : List Nat} :
    a ∈ addresses 0 cs ↔ (stepAt? cs a).isSome = true := by
  cases a with
  | nil => simp [mem_addresses, stepAt?]
  | cons place inner =>
    rw [cons_mem_addresses, stepAt?, isSome_bind_stepWithin?_iff]
    simp only [mem_addressesWithin_iff]

/-! ### They rise -/

mutual

theorem pairwise_addressesWithin : ∀ c : Child, (addressesWithin c).Pairwise (· < ·)
  | .text _ => .nil
  | .descriptor _ children => by
    refine List.pairwise_cons.mpr ⟨fun a ha => ?_, pairwise_addresses 0 children⟩
    obtain ⟨i, inner, c, rfl, -, -⟩ := mem_addresses.mp ha
    exact List.nil_lt_cons _ _

theorem pairwise_addresses (place : Nat) : ∀ cs : List Child,
    (addresses place cs).Pairwise (· < ·)
  | [] => .nil
  | c :: rest => by
    refine List.pairwise_append.mpr ⟨?_, pairwise_addresses (place + 1) rest, ?_⟩
    · refine List.pairwise_map.mpr ((pairwise_addressesWithin c).imp fun hlt => ?_)
      exact List.cons_lt_cons_iff.mpr (.inr ⟨rfl, hlt⟩)
    · -- the children behind have places further on
      intro a ha b hb
      obtain ⟨inner, -, rfl⟩ := List.mem_map.mp ha
      obtain ⟨i, inner', d, rfl, -, -⟩ := mem_addresses.mp hb
      exact List.cons_lt_cons_iff.mpr (.inl (by omega))

end

/-! ### The order of the walk -/

theorem inPreorder_allSteps (cs : List Child) : InPreorder (allSteps cs) cs :=
  ⟨addresses 0 cs, pairwise_addresses 0 cs, fun _ => mem_addresses_iff, map_addresses [] cs⟩

/-- **The walk is the pre-order.** -/
theorem eq_allSteps_iff {cs : List Child} {steps : List Step} :
    steps = allSteps cs ↔ InPreorder steps cs := by
  constructor
  · rintro rfl
    exact inPreorder_allSteps cs
  · rintro ⟨as, hrising, hmem, hsteps⟩
    -- the addresses are the same ones, and they rise in both lists
    have has : as = addresses 0 cs :=
      List.Pairwise.eq_of_mem_iff hrising (pairwise_addresses 0 cs) fun a => by
        rw [hmem, mem_addresses_iff]
    have hmap : steps.map some = (allSteps cs).map some := by
      rw [← hsteps, has]
      exact map_addresses [] cs
    exact List.map_injective_iff.mpr (Option.some_injective Step) hmap

/-! ## Texts -/

/-- The texts at the top, put together. -/
def topText (children : List Child) : String := String.join (children.filterMap text?)

theorem fallbackText?_eq_none_iff {cs : List Child} :
    fallbackText? cs = none ↔ Text.allBlank (topText cs) = true := by
  rw [← Text.trim_eq_empty_iff, topText, fallbackText?]
  simp

theorem fallbackText?_eq_some_iff {cs : List Child} {t : String} :
    fallbackText? cs = some t ↔ t ≠ "" ∧ Text.TrimsTo (topText cs).toList t.toList := by
  rw [← Text.trim_eq_iff, topText, fallbackText?]
  split
  next hempty => exact ⟨nofun, fun ⟨hne, ht⟩ => absurd (ht ▸ hempty) hne⟩
  next hempty =>
    rw [Option.some.injEq]
    exact ⟨fun ht => ⟨ht ▸ hempty, ht⟩, And.right⟩

mutual

/-- A child without texts: nothing, or a descriptor with none within it. -/
def textless : Child → List Child
  | .text _ => []
  | .descriptor step children => [.descriptor step (allTextless children)]
termination_by structural c => c

def allTextless : List Child → List Child
  | [] => []
  | c :: rest => textless c ++ allTextless rest
termination_by structural cs => cs

end

/-- A child at the top, with no texts within it. -/
def bare : Child → Child
  | .text t => .text t
  | .descriptor step children => .descriptor step (allTextless children)

mutual

theorem allSteps_textless : ∀ c : Child, allSteps c.textless = c.steps
  | .text _ => rfl
  | .descriptor step children => by
    rw [textless, allSteps, steps, steps, allSteps, allSteps_allTextless children, List.append_nil]

theorem allSteps_allTextless : ∀ cs : List Child, allSteps (allTextless cs) = allSteps cs
  | [] => rfl
  | c :: rest => by
    rw [allTextless, allSteps_append, allSteps_textless c, allSteps_allTextless rest, allSteps]

end

theorem steps_bare (c : Child) : c.bare.steps = c.steps := by
  cases c with
  | text t => rfl
  | descriptor step children => rw [bare, steps, steps, allSteps_allTextless]

theorem allSteps_map_bare (cs : List Child) : allSteps (cs.map bare) = allSteps cs := by
  induction cs with
  | nil => rfl
  | cons c rest ih => rw [List.map_cons, allSteps, allSteps, steps_bare, ih]

theorem text?_bare (c : Child) : c.bare.text? = c.text? := by
  cases c <;> rfl

theorem fallbackText?_map_bare (cs : List Child) :
    fallbackText? (cs.map bare) = fallbackText? cs := by
  have htexts : text? ∘ bare = text? := funext text?_bare
  rw [fallbackText?, fallbackText?, List.filterMap_map, htexts]

/-! ## Flat forms -/

/-- A descriptor of one step, with no children. -/
def leaf (step : Step) : Child := .descriptor step []

/-- A flat form of some children has their texts at the top in order, and one descriptor without
children for each step of the walk. How the two are mixed is left open. -/
structure FlatFormOf (flat cs : List Child) : Prop where
  texts : flat.filterMap text? = cs.filterMap text?
  descriptors : flat.filter (fun c => c.text? = none) = (allSteps cs).map leaf

/-- What stands for a child in a flat form: itself if it is a text, and otherwise a descriptor for
each of its steps. -/
def leaves : Child → List Child
  | .text t => [.text t]
  | .descriptor step children => (step :: allSteps children).map leaf

/-- The flat form that leaves each text where it was. -/
def flatten (cs : List Child) : List Child := cs.flatMap leaves

theorem allSteps_map_leaf (steps : List Step) : allSteps (steps.map leaf) = steps := by
  induction steps with
  | nil => rfl
  | cons step rest ih => exact congrArg (step :: ·) ih

/-- Texts have no steps. -/
theorem allSteps_filter_descriptors (cs : List Child) :
    allSteps (cs.filter fun c => c.text? = none) = allSteps cs := by
  induction cs with
  | nil => rfl
  | cons c rest ih =>
    cases c with
    | text t => exact ih
    | descriptor step children =>
      rw [List.filter_cons_of_pos (by rfl), allSteps, allSteps, ih]

theorem filterMap_text?_leaves (c : Child) : c.leaves.filterMap text? = c.text?.toList := by
  cases c with
  | text t => rfl
  | descriptor step children =>
    rw [leaves, List.filterMap_map]
    exact List.filterMap_eq_nil_iff.mpr fun _ _ => rfl

theorem filter_leaves (c : Child) :
    (c.leaves.filter fun c => c.text? = none) = c.steps.map leaf := by
  cases c with
  | text t => rfl
  | descriptor step children =>
    rw [leaves, List.filter_map]
    exact congrArg (List.map leaf) (List.filter_eq_self.mpr fun _ _ => rfl)

theorem flatFormOf_flatten (cs : List Child) : FlatFormOf (flatten cs) cs := by
  induction cs with
  | nil => exact ⟨rfl, rfl⟩
  | cons c rest ih =>
    have hflatten : flatten (c :: rest) = c.leaves ++ flatten rest := List.flatMap_cons
    constructor
    · rw [hflatten, List.filterMap_append, filterMap_text?_leaves, ih.texts]
      cases h : c.text? <;> simp [h]
    · rw [hflatten, List.filter_append, filter_leaves, ih.descriptors, allSteps, List.map_append]

theorem FlatFormOf.allSteps_eq {flat cs : List Child} (h : FlatFormOf flat cs) :
    allSteps flat = allSteps cs := by
  rw [← allSteps_filter_descriptors, h.descriptors, allSteps_map_leaf]

theorem FlatFormOf.fallbackText?_eq {flat cs : List Child} (h : FlatFormOf flat cs) :
    fallbackText? flat = fallbackText? cs := by
  rw [fallbackText?, fallbackText?, h.texts]

/-- The steps and the text are all that a resolved video has of its children. -/
theorem resolve_congr {cs ds : List Child} (hsteps : allSteps cs = allSteps ds)
    (htext : fallbackText? cs = fallbackText? ds) (attributes : PropertyMap) (ctx : Context) :
    Props.resolve ⟨cs, attributes⟩ ctx = Props.resolve ⟨ds, attributes⟩ ctx := by
  have hmerged : Props.mergedConfig ⟨cs, attributes⟩ ctx =
      Props.mergedConfig ⟨ds, attributes⟩ ctx := rfl
  have hfallback : ∀ v, Props.fallbackText? v cs = Props.fallbackText? v ds := by
    intro v
    unfold Props.fallbackText?
    rw [htext]
  rw [Props.resolve, Props.resolve, hmerged]
  simp only [hsteps, hfallback]

theorem FlatFormOf.resolve_eq {flat cs : List Child} (h : FlatFormOf flat cs)
    (attributes : PropertyMap) (ctx : Context) :
    Props.resolve ⟨flat, attributes⟩ ctx = Props.resolve ⟨cs, attributes⟩ ctx :=
  resolve_congr h.allSteps_eq h.fallbackText?_eq attributes ctx

theorem FlatFormOf.render_eq {flat cs : List Child} (h : FlatFormOf flat cs)
    (attributes : PropertyMap) (ctx : Context) :
    Props.render ⟨flat, attributes⟩ ctx = Props.render ⟨cs, attributes⟩ ctx := by
  rw [Props.render, Props.render, h.resolve_eq]

/-! ## The whole -/

/-- What becomes of some children. -/
structure Walked (cs : List Child) : Prop where
  /-- Their steps are those of all descriptors in pre-order. -/
  steps : ∀ steps, steps = allSteps cs ↔ InPreorder steps cs
  /-- The steps of more children come after. -/
  appended : ∀ more, allSteps (cs ++ more) = allSteps cs ++ allSteps more
  /-- The text is made of those at the top. It is trimmed as a whole, and absent if it is blank. -/
  absent : fallbackText? cs = none ↔ Text.allBlank (topText cs) = true
  text : ∀ t, fallbackText? cs = some t ↔ t ≠ "" ∧ Text.TrimsTo (topText cs).toList t.toList
  /-- Texts within descriptors change neither. -/
  bareSteps : allSteps (cs.map bare) = allSteps cs
  bareText : fallbackText? (cs.map bare) = fallbackText? cs
  /-- There is a flat form. -/
  flat : FlatFormOf (flatten cs) cs
  /-- Every flat form is resolved and rendered alike, under every context. -/
  resolved : ∀ flat, FlatFormOf flat cs → ∀ attributes ctx,
    Props.resolve ⟨flat, attributes⟩ ctx = Props.resolve ⟨cs, attributes⟩ ctx
  rendered : ∀ flat, FlatFormOf flat cs → ∀ attributes ctx,
    Props.render ⟨flat, attributes⟩ ctx = Props.render ⟨cs, attributes⟩ ctx

/-- **What becomes of children.** Their steps are those of all descriptors, however deep, in
pre-order; their text is what stands at the top, trimmed. Nothing else about them counts, so that a
flat form of them is resolved and rendered alike. -/
theorem walked (cs : List Child) : Walked cs where
  steps _ := eq_allSteps_iff
  appended := allSteps_append cs
  absent := fallbackText?_eq_none_iff
  text _ := fallbackText?_eq_some_iff
  bareSteps := allSteps_map_bare cs
  bareText := fallbackText?_map_bare cs
  flat := flatFormOf_flatten cs
  resolved _ h := h.resolve_eq
  rendered _ h := h.render_eq

/-- A text takes a place among the children and has no address. -/
example : addresses 0 [.descriptor .empty [.text "b", .descriptor .empty []], .text "a",
    .descriptor .empty []] = [[0], [0, 1], [2]] := rfl

end VideoDelivery.Child
