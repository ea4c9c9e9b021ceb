/-! # Byte strings

A byte string is a list of octets, so that encoders and decoders recurse on it. Beside it stand
byte strings of a fixed length, which are addresses, hashes and storage keys, and the big-endian
reading of a byte string as a number, with its two inverses: the shortest form and the form of a
given width. -/
namespace TxCourier

abbrev Bytes := List UInt8

namespace Bytes

/-- The number whose base-256 digits are the bytes, the highest first. -/
def toNat (b : Bytes) : Nat := b.foldl (fun n x => 256 * n + x.toNat) 0

/-- The shortest big-endian form of a number: zero has no bytes. -/
def ofNat (n : Nat) : Bytes :=
  if n = 0 then [] else ofNat (n / 256) ++ [n.toUInt8]
termination_by n
decreasing_by omega

/-- The big-endian form of `n` modulo `256 ^ width`, in exactly `width` bytes. -/
def ofNatWidth : Nat → Nat → Bytes
  | 0, _ => []
  | width + 1, n => ofNatWidth width (n / 256) ++ [n.toUInt8]

@[simp] theorem length_ofNatWidth (width n : Nat) : (ofNatWidth width n).length = width := by
  induction width generalizing n with
  | zero => rfl
  | succ width ih => simp [ofNatWidth, ih]

theorem toNat_append_singleton (b : Bytes) (x : UInt8) :
    toNat (b ++ [x]) = 256 * toNat b + x.toNat := by
  simp [toNat]

theorem toNat_ofNat (n : Nat) : toNat (ofNat n) = n := by
  induction n using Nat.strongRecOn with
  | _ n ih =>
    rw [ofNat]
    split
    · subst n; rfl
    · rw [toNat_append_singleton, ih (n / 256) (by omega)]
      simp only [Nat.toUInt8, UInt8.toNat_ofNat']
      omega

end Bytes

/-- A byte string of exactly `n` bytes. -/
structure FixedBytes (n : Nat) where
  toList : Bytes
  length_eq : toList.length = n
deriving DecidableEq

namespace FixedBytes

variable {n : Nat}

def ofList? (b : Bytes) : Option (FixedBytes n) :=
  if h : b.length = n then some ⟨b, h⟩ else none

/-- The big-endian form of a number in `n` bytes, taken modulo `256 ^ n`. -/
def ofNat (n v : Nat) : FixedBytes n := ⟨Bytes.ofNatWidth n v, Bytes.length_ofNatWidth n v⟩

/-- The same byte throughout. -/
def replicate (n : Nat) (x : UInt8) : FixedBytes n := ⟨List.replicate n x, List.length_replicate⟩

def toNat (b : FixedBytes n) : Nat := Bytes.toNat b.toList

instance : Inhabited (FixedBytes n) := ⟨replicate n 0⟩

@[simp] theorem ofList?_toList (b : FixedBytes n) : ofList? b.toList = some b := by
  simp [ofList?, b.length_eq]

theorem eq_of_ofList? {l : Bytes} {b : FixedBytes n} (h : ofList? l = some b) : l = b.toList := by
  unfold ofList? at h
  split at h
  · cases h; rfl
  · cases h

end FixedBytes

abbrev Address := FixedBytes 20

abbrev Hash := FixedBytes 32

/-- The address of no account, which stands for "no recipient" where one is required. -/
def Address.zero : Address := FixedBytes.replicate 20 0

end TxCourier
