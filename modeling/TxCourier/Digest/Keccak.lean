import TxCourier.Bytes.Basic

/-! # Keccak-256

The sponge with rate 136 and capacity 512 over the permutation of 25 lanes, with the padding
`10…01` and no domain bits. The message is absorbed one octet at a time, so that the digest is a
fold over the bytes. Nothing is asserted here about collisions. -/
namespace TxCourier.Keccak

/-- The 25 lanes; lane `(x, y)` stands at `x + 5 * y`. -/
abbrev State := Vector UInt64 25

def rotateLeft (w : UInt64) (n : Nat) : UInt64 :=
  if n = 0 then w else (w <<< n.toUInt64) ||| (w >>> (64 - n).toUInt64)

/-- How far each lane is rotated. -/
def offsets : Vector Nat 25 :=
  #v[0, 1, 62, 28, 27, 36, 44, 6, 55, 20, 3, 10, 43, 25, 39, 41, 45, 15, 21, 8, 18, 2, 61, 56, 14]

def roundConstants : List UInt64 :=
  [0x0000000000000001, 0x0000000000008082, 0x800000000000808A, 0x8000000080008000,
   0x000000000000808B, 0x0000000080000001, 0x8000000080008081, 0x8000000000008009,
   0x000000000000008A, 0x0000000000000088, 0x0000000080008009, 0x000000008000000A,
   0x000000008000808B, 0x800000000000008B, 0x8000000000008089, 0x8000000000008003,
   0x8000000000008002, 0x8000000000000080, 0x000000000000800A, 0x800000008000000A,
   0x8000000080008081, 0x8000000000008080, 0x0000000080000001, 0x8000000080008008]

/-- Every lane takes in the parities of the column before it and of the column after it, the
latter rotated by one. -/
def theta (a : State) : State :=
  let column : Vector UInt64 5 := Vector.ofFn fun x =>
    a[x.val] ^^^ a[x.val + 5] ^^^ a[x.val + 10] ^^^ a[x.val + 15] ^^^ a[x.val + 20]
  let change : Vector UInt64 5 := Vector.ofFn fun x =>
    column[(x.val + 4) % 5] ^^^ rotateLeft column[(x.val + 1) % 5] 1
  Vector.ofFn fun i => a[i] ^^^ change[i.val % 5]

/-- Lane `(x, y)` is rotated and moves to `(y, 2 * x + 3 * y)`; read from the target, lane
`(x, y)` comes from `(x + 3 * y, x)`. -/
def rhoPi (a : State) : State :=
  Vector.ofFn fun i =>
    let source := (i.val % 5 + 3 * (i.val / 5)) % 5 + 5 * (i.val % 5)
    rotateLeft a[source] offsets[source]

/-- Every lane takes in the lane two to its right where the lane next to it is not set. -/
def chi (a : State) : State :=
  Vector.ofFn fun i =>
    let row := 5 * (i.val / 5)
    a[i] ^^^ (~~~ a[(i.val + 1) % 5 + row] &&& a[(i.val + 2) % 5 + row])

def round (a : State) (constant : UInt64) : State :=
  let b := chi (rhoPi (theta a))
  b.set 0 (b[0] ^^^ constant)

def permute (a : State) : State := roundConstants.foldl round a

/-- The number of octets taken in between two permutations. -/
def rate : Nat := 136

/-- The lanes, and how many octets of the current block have been taken in. -/
structure Sponge where
  lanes : State
  filled : Fin 136

def Sponge.empty : Sponge := ⟨Vector.replicate 25 0, 0⟩

/-- One octet is added to the lanes at a position of the block. -/
def addOctet (lanes : State) (at_ : Fin 136) (x : UInt8) : State :=
  let i := at_.val / 8
  lanes.set i (lanes[i] ^^^ (x.toUInt64 <<< (8 * (at_.val % 8)).toUInt64))

def Sponge.absorb (s : Sponge) (x : UInt8) : Sponge :=
  let lanes := addOctet s.lanes s.filled x
  if s.filled.val = 135 then ⟨permute lanes, 0⟩ else ⟨lanes, s.filled + 1⟩

/-- The padding closes the block, and the first four lanes are read, the low octets first. -/
def Sponge.digest (s : Sponge) : Hash :=
  let lanes := permute (addOctet (addOctet s.lanes s.filled 0x01) 135 0x80)
  ⟨(List.finRange 32).map fun i =>
      (lanes[i.val / 8] >>> (8 * (i.val % 8)).toUInt64).toUInt8, by simp⟩

end TxCourier.Keccak

namespace TxCourier

/-- The Keccak-256 digest of a byte string. -/
def keccak256 (b : Bytes) : Hash := (b.foldl Keccak.Sponge.absorb Keccak.Sponge.empty).digest

end TxCourier
