/-! # Machine words

The 256-bit words of the ledger are bit vectors, whose arithmetic wraps. The operations that do
not wrap are named here for what they do instead: saturate at the largest word, or have no
result. -/
namespace TxCourier

/-- A 256-bit word: prices, balances, amounts and signature scalars. -/
abbrev Word := BitVec 256

/-- A 128-bit word: what a canonical transaction has room for as a fee. -/
abbrev Fee := BitVec 128

/-- The number of fees. -/
def Fee.size : Nat := 0x100000000000000000000000000000000

theorem Fee.toNat_lt_size (f : Fee) : f.toNat < Fee.size := f.isLt

namespace Word

/-- The number of words. -/
def size : Nat := 0x10000000000000000000000000000000000000000000000000000000000000000

theorem toNat_lt_size (w : Word) : w.toNat < size := w.isLt

/-- The word with the given value, if it fits. -/
def ofNat? (n : Nat) : Option Word :=
  if n < size then some (BitVec.ofNat 256 n) else none

def ofUInt64 (n : UInt64) : Word := BitVec.ofNat 256 n.toNat

def ofBool (b : Bool) : Word := if b then 1#256 else 0#256

/-- The value as a 64-bit integer, if it fits. -/
def toUInt64? (w : Word) : Option UInt64 :=
  if w.toNat < UInt64.size then some (UInt64.ofNat w.toNat) else none

/-- The value as a fee, if it fits. -/
def toFee? (w : Word) : Option Fee :=
  if w.toNat < Fee.size then some (BitVec.ofNat 128 w.toNat) else none

def ofFee (f : Fee) : Word := BitVec.ofNat 256 f.toNat

/-- The nearest word: sums and products above the range stay at its end. -/
def clamp (n : Nat) : Word := BitVec.ofNat 256 (min n (size - 1))

def saturatingAdd (a b : Word) : Word := clamp (a.toNat + b.toNat)

def saturatingMul (a b : Word) : Word := clamp (a.toNat * b.toNat)

def checkedMul (a b : Word) : Option Word := ofNat? (a.toNat * b.toNat)

def checkedSub (a b : Word) : Option Word :=
  if b.toNat ≤ a.toNat then some (a - b) else none

/-- The decimal digits of a word. -/
def decimal (w : Word) : String := w.toNat.repr

theorem toNat_clamp (n : Nat) : (clamp n).toNat = min n (size - 1) := by
  simp only [clamp, size, BitVec.toNat_ofNat]
  omega

end Word

end TxCourier
