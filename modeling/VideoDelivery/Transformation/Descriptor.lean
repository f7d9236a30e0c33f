import VideoDelivery.Transformation.Step
import VideoDelivery.Json.Canonical
import VideoDelivery.Text.Blank

/-!
# Descriptors

A video element may have children: texts, and descriptors of steps that may have children of their
own. The steps of all descriptors form a chain, each descriptor before those within it and siblings
in their order. The texts at the top are what is shown when the video cannot be played; a text
within a descriptor means nothing.

* `Child.allSteps_append` — the steps of two lists of children, one behind the other.
* `Child.ofJson_toJson` — a child is read back from its written form.
-/

namespace VideoDelivery

/-- A child of a video element. -/
inductive Child where
  | text (text : String)
  | descriptor (step : Step) (children : List Child)

namespace Child

mutual

/-- Equality of children, with equality of values in their steps. -/
def same : Child → Child → Bool
  | .text a, .text b => a == b
  | .descriptor s xs, .descriptor t ys => s == t && sameAll xs ys
  | _, _ => false
termination_by structural c => c

def sameAll : List Child → List Child → Bool
  | [], [] => true
  | x :: xs, y :: ys => same x y && sameAll xs ys
  | _, _ => false
termination_by structural cs => cs

end

instance : BEq Child := ⟨same⟩

/-! ## Steps and text -/

mutual

/-- The steps of a child: its own and those of the descriptors within it. -/
def steps : Child → List Step
  | .text _ => []
  | .descriptor step children => step :: allSteps children
termination_by structural c => c

/-- The steps of some children. -/
def allSteps : List Child → List Step
  | [] => []
  | c :: rest => steps c ++ allSteps rest
termination_by structural cs => cs

end

theorem allSteps_append (cs ds : List Child) :
    allSteps (cs ++ ds) = allSteps cs ++ allSteps ds := by
  induction cs with
  | nil => rfl
  | cons c rest ih =>
    rw [List.cons_append, allSteps, ih, allSteps, List.append_assoc]

/-- The text of a text child. -/
def text? : Child → Option String
  | .text t => some t
  | .descriptor .. => none

/-- The texts at the top, put together and trimmed; none if nothing is left. -/
def fallbackText? (children : List Child) : Option String :=
  let text := Text.trim (String.join (children.filterMap text?))
  if text = "" then none else some text

/-! ## Written form -/

mutual

/-- A child as it is written: a text as a string, a descriptor as an object. -/
def toJson : Child → Json
  | .text t => .str t
  | .descriptor step [] => .obj [("transformation", step.toJson)]
  | .descriptor step (c :: rest) =>
    .obj [("transformation", step.toJson), ("children", .arr (allToJson (c :: rest)))]
termination_by structural c => c

def allToJson : List Child → List Json
  | [] => []
  | c :: rest => toJson c :: allToJson rest
termination_by structural cs => cs

end

/-- The step of an object. -/
def stepOfJson? (v : Json) : Option Step := (Step.ofJson v).toOption

mutual

/-- A child is read from a string, from an object with a `transformation` and possibly `children`,
each at most once, or from a list of the two. Other fields of the object are passed over. -/
def ofJson : Json → Option Child
  | .str t => some (.text t)
  | .obj fields => do
    let (step, children) ← ofFields fields
    return .descriptor (← step) (children.getD [])
  | .arr [step] => do return .descriptor (← stepOfJson? step) []
  | .arr [step, .arr children] => do
    return .descriptor (← stepOfJson? step) (← allOfJson children)
  | _ => none
termination_by structural v => v

/-- The step and the children that the fields of an object name. -/
def ofFields : List (String × Json) → Option (Option Step × Option (List Child))
  | [] => some (none, none)
  | (key, v) :: rest => do
    if key = "transformation" then
      let step ← stepOfJson? v
      -- a second one further on makes the object unreadable
      match ← ofFields rest with
      | (none, children) => some (some step, children)
      | (some _, _) => none
    else if key = "children" then
      let children ← match v with
        | .arr items => allOfJson items
        | _ => none
      match ← ofFields rest with
      | (step, none) => some (step, some children)
      | (_, some _) => none
    else ofFields rest
termination_by structural fields => fields

def allOfJson : List Json → Option (List Child)
  | [] => some []
  | v :: rest => do return (← ofJson v) :: (← allOfJson rest)
termination_by structural vs => vs

end

/-- A list of children is read from an array. -/
def listOfJson : Json → Except Json.ShapeFault (List Child)
  | .arr items =>
    match allOfJson items with
    | some children => .ok children
    | none => .error .noChild
  | v => .error (.invalidType v.found .sequence)

/-- A child as it stands in a text, where the values of its steps may still repeat a key. -/
def ofWritten (v : Json) : Option Child := do
  let _ ← ofJson v
  ofJson v.canonical

/-! ## Reading back -/

theorem stepOfJson?_toJson (step : Step) : stepOfJson? step.toJson = some step := by
  simp [stepOfJson?, Step.ofJson_toJson, Except.toOption]

mutual

/-- A child is read back from its written form. -/
theorem ofJson_toJson : ∀ c : Child, ofJson c.toJson = some c
  | .text _ => rfl
  | .descriptor step [] => by
    simp [toJson, ofJson, ofFields, stepOfJson?_toJson]
  | .descriptor step (c :: rest) => by
    simp [toJson, ofJson, ofFields, stepOfJson?_toJson, allOfJson_allToJson (c :: rest)]

theorem allOfJson_allToJson : ∀ cs : List Child, allOfJson (allToJson cs) = some cs
  | [] => rfl
  | c :: rest => by
    simp [allToJson, allOfJson, ofJson_toJson c, allOfJson_allToJson rest]

end

end Child

end VideoDelivery
