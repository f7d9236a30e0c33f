import VideoDelivery.Json.Printer
import VideoDelivery.Video.Snapshot

/-!
# Notices

What is worth telling while a description is read, compiled and compared, although nothing is wrong
enough to fail. The results of the library do not depend on notices; they are computed from the
same inputs, in the order in which the work is done. Where the work ends in an error, the notices
up to it remain (`untilFailure`).
-/

namespace VideoDelivery

/-- One thing that is worth telling. -/
inductive Notice where
  /-- A name that is no transformation parameter was left out of a step or a segment. -/
  | unknownParameter (name : String)
  /-- A parameter was left out of a segment because its value has no text. -/
  | valueWithoutText (name : String)
  /-- A poster was not understood. -/
  | unrecognizedPoster (value : Json)
  /-- The element has to be loaded anew. -/
  | identityChanged (previous next : Fingerprint) (publicId : String)

namespace Notice

/-- A notice as one line: what happened, then each detail as a name with its value. -/
def text : Notice → String
  | .unknownParameter name => "dropping unknown transformation parameter param=" ++ name
  | .valueWithoutText name =>
    "dropping transformation parameter with unencodable value param=" ++ name
  | .unrecognizedPoster value =>
    "unrecognized poster value, using default poster poster=" ++ value.compact
  | .identityChanged previous next publicId =>
    "asset identity changed, reloading media element from=" ++ previous.text ++
      " to=" ++ next.text ++ " public_id=" ++ publicId

/-- The notices of stages that follow each other, up to and including the first one that fails. -/
def untilFailure : List (Bool × List Notice) → List Notice
  | [] => []
  | (succeeds, notices) :: rest => notices ++ if succeeds then untilFailure rest else []

/-- The stage of an operation with its result and its notices. -/
def stage {ε α : Type} (result : Except ε α) (notices : List Notice) : Bool × List Notice :=
  (result.isOk, notices)

end Notice

end VideoDelivery
