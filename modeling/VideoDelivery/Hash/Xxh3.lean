/-!
# The 128-bit hash XXH3

A hash of a sequence of bytes under a 64-bit seed. Bytes are read as words, the least significant
byte first; words are added, multiplied and combined bit by bit. How the words are mixed depends on
the length: up to 16 bytes in one mix, up to 240 bytes in mixes of 32 bytes, and beyond that in
stripes of 64 bytes that are gathered in eight sums under a secret which depends on the seed.
-/

namespace VideoDelivery.Xxh3

/-! ## Constants -/

/-! The odd multipliers, of 32 and of 64 bits, and the two of the last mix. -/

def prime32₁ : UInt64 := 0x9E3779B1
def prime32₂ : UInt64 := 0x85EBCA77
def prime32₃ : UInt64 := 0xC2B2AE3D
def prime64₁ : UInt64 := 0x9E3779B185EBCA87
def prime64₂ : UInt64 := 0xC2B2AE3D27D4EB4F
def prime64₃ : UInt64 := 0x165667B19E3779F9
def prime64₄ : UInt64 := 0x85EBCA77C2B2AE63
def prime64₅ : UInt64 := 0x27D4EB2F165667C5
def mix₁ : UInt64 := 0x165667919E3779F9
def mix₂ : UInt64 := 0x9FB21C651E98DF25

/-- The secret without a seed, as words. -/
def secretWords : List UInt64 := [
  0xbe4ba423396cfeb8, 0x1cad21f72c81017c, 0xdb979083e96dd4de, 0x1f67b3b7a4a44072,
  0x78e5c0cc4ee679cb, 0x2172ffcc7dd05a82, 0x8e2443f7744608b8, 0x4c263a81e69035e0,
  0xcb00c391bb52283c, 0xa32e531b8b65d088, 0x4ef90da297486471, 0xd8acdea946ef1938,
  0x3f349ce33f76faa8, 0x1d4f0bc7c7bbdcf9, 0x3159b4cd4be0518a, 0x647378d9c97e9fc8,
  0xc3ebd33483acc5ea, 0xeb6313faffa081c5, 0x49daf0b751dd0d17, 0x9e68d429265516d3,
  0xfca1477d58be162b, 0xce31d07ad1b8f88f, 0x280416958f3acb45, 0x7e404bbbcafbd7af]

/-- The bytes of a word. -/
def bytesOf (w : UInt64) : List UInt8 :=
  (List.range 8).map fun k => (w >>> (8 * k).toUInt64).toUInt8

/-- The secret without a seed. -/
def secret : Array UInt8 := (secretWords.flatMap bytesOf).toArray

/-! ## Words -/

/-- A byte; beyond the end it is zero. -/
def byte (bytes : Array UInt8) (i : Nat) : UInt64 := (bytes.getD i 0).toUInt64

/-- The word of `n` bytes from `i` on, the least significant byte first. -/
def word (n : Nat) (bytes : Array UInt8) (i : Nat) : UInt64 :=
  (List.range n).foldl (fun w k => w ||| byte bytes (i + k) <<< (8 * k).toUInt64) 0

def word32 : Array UInt8 → Nat → UInt64 := word 4
def word64 : Array UInt8 → Nat → UInt64 := word 8

/-- The lower half of a word. -/
def low32 (w : UInt64) : UInt64 := w &&& 0xffffffff

/-- The word of 64 bits with its bytes in the opposite order. -/
def swap64 (w : UInt64) : UInt64 :=
  (List.range 8).foldl (fun r k => r <<< 8 ||| (w >>> (8 * k).toUInt64 &&& 0xff)) 0

/-- The lower half of a word with its four bytes in the opposite order. -/
def swap32 (w : UInt64) : UInt64 := swap64 w >>> 32

/-- The lower half of a word, turned left by 13 bits. -/
def turn32 (w : UInt64) : UInt64 := low32 (w <<< 13 ||| low32 w >>> 19)

/-- Two words, the higher one first. -/
structure Pair where
  high : UInt64
  low : UInt64
  deriving DecidableEq

/-- The product of two words. -/
def product (a b : UInt64) : Pair :=
  let p := a.toNat * b.toNat
  ⟨(p >>> 64).toUInt64, p.toUInt64⟩

/-- The two halves of a product combined. -/
def fold (a b : UInt64) : UInt64 :=
  let p := product a b
  p.high ^^^ p.low

/-- `w` combined with itself shifted right. -/
def shiftMix (w : UInt64) (bits : UInt64) : UInt64 := w ^^^ w >>> bits

/-- The last mix of most lengths. -/
def finish (w : UInt64) : UInt64 := shiftMix (shiftMix w 37 * mix₁) 32

/-- The last mix of the shortest lengths. -/
def finishShort (w : UInt64) : UInt64 :=
  shiftMix (shiftMix (shiftMix w 33 * prime64₂) 29 * prime64₃) 32

/-! ## Up to 16 bytes -/

/-- Nothing to read: the seed alone is mixed. -/
def hash0 (seed : UInt64) : Pair :=
  ⟨finishShort (seed ^^^ word64 secret 80 ^^^ word64 secret 88),
    finishShort (seed ^^^ word64 secret 64 ^^^ word64 secret 72)⟩

/-- First, middle and last byte and the length make one word. -/
def hash1to3 (bytes : Array UInt8) (seed : UInt64) : Pair :=
  let n := bytes.size
  let low := byte bytes 0 <<< 16 ||| byte bytes (n / 2) <<< 24 ||| byte bytes (n - 1) |||
    n.toUInt64 <<< 8
  let high := turn32 (swap32 low)
  ⟨finishShort (high ^^^ ((word32 secret 8 ^^^ word32 secret 12) - seed)),
    finishShort (low ^^^ ((word32 secret 0 ^^^ word32 secret 4) + seed))⟩

/-- The first and the last four bytes, which may overlap, make one word. -/
def hash4to8 (bytes : Array UInt8) (seed : UInt64) : Pair :=
  let n := bytes.size
  let seed := seed ^^^ swap32 seed <<< 32
  let input := word32 bytes 0 + word32 bytes (n - 4) <<< 32
  let key := input ^^^ ((word64 secret 16 ^^^ word64 secret 24) + seed)
  let p := product key (prime64₁ + n.toUInt64 <<< 2)
  let high := p.high + p.low <<< 1
  let low := p.low ^^^ high >>> 3
  ⟨finish high, shiftMix (shiftMix low 35 * mix₂) 28⟩

/-- The first and the last eight bytes, which may overlap. -/
def hash9to16 (bytes : Array UInt8) (seed : UInt64) : Pair :=
  let n := bytes.size
  let first := word64 bytes 0
  let last := word64 bytes (n - 8)
  let p := product (first ^^^ last ^^^ ((word64 secret 32 ^^^ word64 secret 40) - seed)) prime64₁
  let low := p.low + (n - 1).toUInt64 <<< 54
  let last := last ^^^ ((word64 secret 48 ^^^ word64 secret 56) + seed)
  let high := p.high + last + low32 last * (prime32₂ - 1)
  let q := product (low ^^^ swap64 high) prime64₂
  ⟨finish (q.high + high * prime64₂), finish q.low⟩

/-! ## Up to 240 bytes -/

/-- Sixteen bytes mixed with sixteen bytes of the secret. -/
def mix16 (bytes : Array UInt8) (i j : Nat) (seed : UInt64) : UInt64 :=
  fold (word64 bytes i ^^^ (word64 secret j + seed))
    (word64 bytes (i + 8) ^^^ (word64 secret (j + 8) - seed))

/-- Two runs of sixteen bytes mixed into a pair. -/
def mix32 (bytes : Array UInt8) (seed : UInt64) (acc : Pair) (i i' j : Nat) : Pair :=
  ⟨(acc.high + mix16 bytes i' (j + 16) seed) ^^^ (word64 bytes i + word64 bytes (i + 8)),
    (acc.low + mix16 bytes i j seed) ^^^ (word64 bytes i' + word64 bytes (i' + 8))⟩

/-- The hash of what was mixed. -/
def finishPair (n : Nat) (seed : UInt64) (acc : Pair) : Pair :=
  ⟨0 - finish (acc.low * prime64₁ + acc.high * prime64₄ + (n.toUInt64 - seed) * prime64₂),
    finish (acc.low + acc.high)⟩

/-- The pair that runs are mixed into at first. -/
def startPair (n : Nat) : Pair := ⟨0, n.toUInt64 * prime64₁⟩

/-- From both ends to the middle. -/
def hash17to128 (bytes : Array UInt8) (seed : UInt64) : Pair :=
  let n := bytes.size
  let rounds := (n - 1) / 32
  let acc := (List.range (rounds + 1)).reverse.foldl
    (fun acc k => mix32 bytes seed acc (16 * k) (n - 16 * (k + 1)) (32 * k)) (startPair n)
  finishPair n seed acc

/-- From the start, with one mix in between after 128 bytes, and the last bytes once more. -/
def hash129to240 (bytes : Array UInt8) (seed : UInt64) : Pair :=
  let n := bytes.size
  let first := (List.range 4).foldl
    (fun acc k => mix32 bytes seed acc (32 * k) (32 * k + 16) (32 * k)) (startPair n)
  let middle : Pair := ⟨finish first.high, finish first.low⟩
  let later := (List.range (n / 32 - 4)).foldl
    (fun acc k => mix32 bytes seed acc (128 + 32 * k) (144 + 32 * k) (3 + 32 * k)) middle
  finishPair n seed (mix32 bytes (0 - seed) later (n - 16) (n - 32) 103)

/-! ## More than 240 bytes -/

/-- The secret of a seed: the seed is added to and taken from its words in turn. -/
def seededSecret (seed : UInt64) : Array UInt8 :=
  ((List.range 12).flatMap fun k =>
    bytesOf (word64 secret (16 * k) + seed) ++ bytesOf (word64 secret (16 * k + 8) - seed)).toArray

/-- The other sum of each pair of sums. -/
def partner (k : Nat) : Nat := if k % 2 = 0 then k + 1 else k - 1

/-- The eight sums at the start. -/
def startSums : List UInt64 :=
  [prime32₃, prime64₁, prime64₂, prime64₃, prime64₄, prime32₂, prime64₅, prime32₁]

/-- The sums with the stripe at `i` gathered under the secret at `j`. -/
def gather (key bytes : Array UInt8) (sums : List UInt64) (i j : Nat) : List UInt64 :=
  sums.mapIdx fun k sum =>
    let w := word64 bytes (i + 8 * k) ^^^ word64 key (j + 8 * k)
    sum + word64 bytes (i + 8 * partner k) + low32 w * (w >>> 32)

/-- The sums scrambled at the end of a block. -/
def scramble (key : Array UInt8) (sums : List UInt64) : List UInt64 :=
  sums.mapIdx fun k sum => (shiftMix sum 47 ^^^ word64 key (128 + 8 * k)) * prime32₁

/-- Stripes in a block. -/
def stripes : Nat := 16

/-- The sums with `n` stripes from `i` on gathered. -/
def gatherStripes (key bytes : Array UInt8) (sums : List UInt64) (i n : Nat) : List UInt64 :=
  (List.range n).foldl (fun acc s => gather key bytes acc (i + 64 * s) (8 * s)) sums

/-- One word of the eight sums. -/
def merge (key : Array UInt8) (sums : List UInt64) (j : Nat) (start : UInt64) : UInt64 :=
  finish ((List.range 4).foldl (fun acc k =>
    acc + fold (sums.getD (2 * k) 0 ^^^ word64 key (j + 16 * k))
      (sums.getD (2 * k + 1) 0 ^^^ word64 key (j + 16 * k + 8))) start)

/-- In blocks, then the stripes that are left, then the last 64 bytes once more. -/
def hashLong (bytes : Array UInt8) (seed : UInt64) : Pair :=
  let n := bytes.size
  let key := seededSecret seed
  let block := 64 * stripes
  let blocks := (n - 1) / block
  let full := (List.range blocks).foldl
    (fun acc b => scramble key (gatherStripes key bytes acc (block * b) stripes)) startSums
  let rest := gatherStripes key bytes full (block * blocks) ((n - 1 - block * blocks) / 64)
  let sums := gather key bytes rest (n - 64) 121
  ⟨merge key sums 117 (0 - 1 - n.toUInt64 * prime64₂), merge key sums 11 (n.toUInt64 * prime64₁)⟩

/-! ## Any length -/

/-- The hash of some bytes under a seed. -/
def hash (seed : UInt64) (input : List UInt8) : Pair :=
  let bytes := input.toArray
  let n := bytes.size
  if n = 0 then hash0 seed
  else if n ≤ 3 then hash1to3 bytes seed
  else if n ≤ 8 then hash4to8 bytes seed
  else if n ≤ 16 then hash9to16 bytes seed
  else if n ≤ 128 then hash17to128 bytes seed
  else if n ≤ 240 then hash129to240 bytes seed
  else hashLong bytes seed

end VideoDelivery.Xxh3
