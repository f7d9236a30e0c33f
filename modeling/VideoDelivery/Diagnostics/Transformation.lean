import VideoDelivery.Asset.Url
import VideoDelivery.Diagnostics.Notice
import VideoDelivery.Transformation.Chain
import VideoDelivery.Transformation.Descriptor

/-!
# Notices of transformations

The notices of reading steps, chains and descriptors, and of compiling them.
-/

namespace VideoDelivery.Notice

/-- The notices of encoding one parameter. -/
def ofEncoding (name : String) (value : Json) : List Notice :=
  match Token.encode name value with
  | .error .unknownName => [.unknownParameter name]
  | .error .noText => [.valueWithoutText name]
  | _ => []

/-- The notices of inserting a name into a step. -/
def ofInsertion (name : String) : List Notice :=
  if Parameter.isParameter name then [] else [.unknownParameter name]

/-- The notices of reading the fields of a step. -/
def ofFields (fields : List (String × Json)) : List Notice :=
  (PropertyMap.ofList fields).keys.flatMap ofInsertion

/-- The notices of reading a step. -/
def ofStepValue : Json → List Notice
  | .obj fields => ofFields fields
  | _ => []

/-- The notices of compiling a step. -/
def ofSegment (s : Step) : List Notice := s.entries.flatMap fun e => ofEncoding e.1 e.2

/-- The notices of compiling a URL. -/
def ofUrl (a : Asset) (chain : List Step) : List Notice :=
  if a.addressFault?.isSome then [] else chain.flatMap ofSegment

/-- The notices of reading a chain, up to the first item that is no object. -/
def ofChainValue : Json → List Notice
  | .obj fields => ofFields fields
  | .arr items => (items.takeWhile Json.isObject).flatMap ofStepValue
  | _ => []

mutual

/-- The notices of reading a child. -/
def ofChildValue : Json → List Notice
  | .obj fields => ofChildFields false false fields
  | .arr (.obj fields :: .arr children :: _) => ofFields fields ++ ofChildValues children
  | .arr (.obj fields :: _) => ofFields fields
  | _ => []
termination_by structural v => v

/-- The notices of reading the fields of a descriptor, given which of the two were read before. -/
def ofChildFields (hasStep hasChildren : Bool) : List (String × Json) → List Notice
  | [] => []
  | (key, v) :: rest =>
    if key = "transformation" then
      if hasStep then []
      else
        match v with
        | .obj fields => ofFields fields ++ ofChildFields true hasChildren rest
        | _ => []
    else if key = "children" then
      if hasChildren then []
      else
        match v with
        | .arr items =>
          ofChildValues items ++
            if (Child.allOfJson items).isSome then ofChildFields hasStep true rest else []
        | _ => []
    else ofChildFields hasStep hasChildren rest
termination_by structural fields => fields

/-- The notices of reading some children, up to the first one that cannot be read. -/
def ofChildValues : List Json → List Notice
  | [] => []
  | v :: rest =>
    ofChildValue v ++ if (Child.ofJson v).isSome then ofChildValues rest else []
termination_by structural vs => vs

end

/-- The notices of reading a list of children. -/
def ofChildren : Json → List Notice
  | .arr items => ofChildValues items
  | _ => []

end VideoDelivery.Notice
