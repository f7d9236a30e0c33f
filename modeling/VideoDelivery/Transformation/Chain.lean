import VideoDelivery.Transformation.Step
import VideoDelivery.Error

/-!
# Chains

A chain is a list of steps, applied one after the other. A property named `transformation` holds a
chain when it is an object or a list with an object in it; any other value is the parameter of that
name, which calls a transformation by its own name.
-/

namespace VideoDelivery.Chain

/-- The value of a `transformation` property is a chain. -/
def isChain : Json → Bool
  | .obj _ => true
  | .arr items => items.any Json.isObject
  | _ => false

/-- The steps of a list, whose first item has the given index. -/
def ofItems (index : Nat) : List Json → Except Error (List Step)
  | [] => .ok []
  | .obj fields :: rest => do return Step.ofFields fields :: (← ofItems (index + 1) rest)
  | _ :: _ => .error (.configuration (.chainItemNotObject index))

/-- A chain is read from an object or a list of objects; null is the empty one. -/
def ofJson : Json → Except Error (List Step)
  | .null => .ok []
  | .obj fields => .ok [Step.ofFields fields]
  | .arr items => ofItems 0 items
  | _ => .error (.configuration .chainNotObjects)

/-- A step before a chain, unless it has no parameters. -/
def withHead (head : Step) (chain : List Step) : List Step :=
  if head.isEmpty then chain else head :: chain

end VideoDelivery.Chain
