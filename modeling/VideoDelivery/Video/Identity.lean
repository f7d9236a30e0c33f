import VideoDelivery.Video.Config

/-!
# Identity bytes

The typed configuration as a sequence of bytes, which a fingerprint is taken of. Every part says
where it ends: texts, lists and maps start with their size in four bytes, the least significant
first, and a part of several forms starts with a byte for its form. Sizes of texts count bytes of
UTF-8.
-/

namespace VideoDelivery.Identity

/-- A size in four bytes, the least significant first. -/
def size (n : Nat) : List UInt8 :=
  [UInt8.ofNat n, UInt8.ofNat (n >>> 8), UInt8.ofNat (n >>> 16), UInt8.ofNat (n >>> 24)]

/-- The bytes of a text after their number. -/
def text (s : String) : List UInt8 := size s.utf8ByteSize ++ s.toByteArray.data.toList

/-- A truth value in one byte. -/
def flag (b : Bool) : List UInt8 := [if b then 1 else 0]

/-- A part that may be absent. -/
def optional {α : Type} (part : α → List UInt8) : Option α → List UInt8
  | some a => 1 :: part a
  | none => [0]

/-- Parts of one kind after their number. -/
def list {α : Type} (part : α → List UInt8) (items : List α) : List UInt8 :=
  size items.length ++ items.flatMap part

mutual

/-- A value after the byte of its kind; a number goes in as it is written. -/
def json : Json → List UInt8
  | .null => [0]
  | .bool b => 1 :: flag b
  | .num n => 2 :: text n.text
  | .str s => 3 :: text s
  | .arr items => 4 :: (size items.length ++ jsonItems items)
  | .obj fields => 5 :: (size fields.length ++ jsonFields fields)
termination_by structural v => v

def jsonItems : List Json → List UInt8
  | [] => []
  | v :: rest => json v ++ jsonItems rest
termination_by structural vs => vs

def jsonFields : List (String × Json) → List UInt8
  | [] => []
  | (k, v) :: rest => text k ++ json v ++ jsonFields rest
termination_by structural fs => fs

end

/-- The parameters of a step after their number. -/
def step (s : Step) : List UInt8 := size s.size ++ jsonFields s.entries

/-- The parts of an asset in turn. -/
def asset (a : Asset) : List UInt8 :=
  text a.cloudName ++ text a.publicId ++ text a.resourceType.token ++ optional text a.format

/-- A poster after the byte of its form; an absent one has the byte alone. -/
def poster : Option Poster → List UInt8
  | none => [0]
  | some (.url u) => 1 :: text u
  | some (.frame secure) => 2 :: optional flag secure
  | some (.asset p) =>
    3 :: (optional text p.cloudName ++ text p.publicId ++
      optional (fun t : ResourceType => text t.token) p.resourceType ++ optional text p.format ++
      optional flag p.secure ++ step p.params ++ list step p.chain)

/-- The bytes of a configuration. -/
def config (c : Config) : List UInt8 :=
  asset c.asset ++ flag c.secure ++ list (fun f : Format => text f.token) c.formats ++
    step c.params ++ list step c.chain ++
    list (fun e : Format × Step => text e.1.token ++ step e.2) c.overrides.entries ++
    poster c.poster

end VideoDelivery.Identity
