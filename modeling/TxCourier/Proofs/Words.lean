import TxCourier.Word

/-! # What words stand for

The operations on words, told by the numbers that the words stand for: narrower words are found
again, a checked operation has a result where the exact one fits, and a saturating one stops at the
largest word. -/
namespace TxCourier.Word

/-! ## Narrower words -/

@[simp] theorem toNat_ofUInt64 (n : UInt64) : (ofUInt64 n).toNat = n.toNat := by
  have bound := n.toNat_lt
  simp [ofUInt64]
  omega

@[simp] theorem toNat_ofFee (f : Fee) : (ofFee f).toNat = f.toNat := by
  have bound := f.isLt
  simp [ofFee]
  omega

theorem exists_ofUInt64 {w : Word} (bound : w.toNat < UInt64.size) :
    ∃ n : UInt64, w = ofUInt64 n := by
  refine ⟨UInt64.ofNat w.toNat, ?_⟩
  apply BitVec.eq_of_toNat_eq
  rw [toNat_ofUInt64, UInt64.toNat_ofNat_of_lt' bound]

theorem exists_ofFee {w : Word} (bound : w.toNat < Fee.size) : ∃ f : Fee, w = ofFee f := by
  have room : w.toNat < 340282366920938463463374607431768211456 := bound
  refine ⟨BitVec.ofNat 128 w.toNat, ?_⟩
  apply BitVec.eq_of_toNat_eq
  rw [toNat_ofFee, BitVec.toNat_ofNat]
  omega

theorem eq_of_toUInt64? {w : Word} {n : UInt64} (found : w.toUInt64? = some n) :
    w = ofUInt64 n := by
  unfold toUInt64? at found
  split at found
  · rename_i bound
    cases found
    apply BitVec.eq_of_toNat_eq
    rw [toNat_ofUInt64, UInt64.toNat_ofNat_of_lt' bound]
  · cases found

theorem eq_of_toFee? {w : Word} {f : Fee} (found : w.toFee? = some f) : w = ofFee f := by
  unfold toFee? at found
  split at found
  · rename_i bound
    cases found
    have small : w.toNat < 2 ^ 128 := bound
    apply BitVec.eq_of_toNat_eq
    rw [toNat_ofFee, BitVec.toNat_ofNat, Nat.mod_eq_of_lt small]
  · cases found

/-! ## Checked operations -/

theorem ofNat?_eq_some_iff {n : Nat} {w : Word} : ofNat? n = some w ↔ w.toNat = n := by
  constructor
  · intro made
    unfold ofNat? at made
    split at made
    · rename_i fits
      cases made
      exact Nat.mod_eq_of_lt fits
    · cases made
  · intro value
    have fits : n < size := value ▸ w.toNat_lt_size
    rw [ofNat?, if_pos fits, ← value, BitVec.ofNat_toNat, BitVec.setWidth_eq]

theorem checkedMul_eq_some_iff {a b c : Word} :
    checkedMul a b = some c ↔ c.toNat = a.toNat * b.toNat := ofNat?_eq_some_iff

theorem eq_of_checkedSub {a b c : Word} (found : checkedSub a b = some c) : a = c + b := by
  unfold checkedSub at found
  split at found
  · cases found
    exact (BitVec.sub_add_cancel a b).symm
  · cases found

/-! ## Saturating operations -/

theorem toNat_saturatingMul (a : Word) (n : UInt64) :
    (saturatingMul a (ofUInt64 n)).toNat = min (a.toNat * n.toNat) (size - 1) := by
  rw [saturatingMul, toNat_clamp, toNat_ofUInt64]

end TxCourier.Word
