import VideoDelivery.Hash.Xxh3
import VideoDelivery.Video.Identity

/-!
# Snapshots

A snapshot is the typed configuration that an element was rendered from. The element has to be
loaded anew exactly when the snapshot changes. Snapshots are compared by value; their fingerprint,
a hash of the identity bytes, is for logs and for caches elsewhere.
-/

namespace VideoDelivery

/-- The seed of all fingerprints. -/
def fingerprintSeed : UInt64 := 0x3c6ef372fe94f82b

/-- A digest of 128 bits. -/
abbrev Fingerprint := Xxh3.Pair

namespace Fingerprint

/-- The fingerprint of some bytes. -/
def ofBytes (bytes : List UInt8) : Fingerprint := Xxh3.hash fingerprintSeed bytes

/-- A word as 16 hexadecimal digits. -/
def wordText (w : UInt64) : String :=
  let digits := Nat.toDigits 16 w.toNat
  String.ofList (List.replicate (16 - digits.length) '0' ++ digits)

/-- The fingerprint as 32 hexadecimal digits, the high word first. -/
def text (f : Fingerprint) : String := wordText f.high ++ wordText f.low

end Fingerprint

/-- The configuration that an element was rendered from. -/
structure Snapshot where
  config : Config

namespace Snapshot

instance : BEq Snapshot := ⟨fun a b => a.config == b.config⟩

/-- The digest of the configuration. -/
def fingerprint (s : Snapshot) : Fingerprint := .ofBytes (Identity.config s.config)

/-- Going from one snapshot to the next, the element has to be loaded anew. -/
def needsReload (previous next : Snapshot) : Bool := previous != next

end Snapshot

end VideoDelivery
