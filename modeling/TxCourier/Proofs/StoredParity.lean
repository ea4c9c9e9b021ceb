import TxCourier.Envelope.Signing

/-! # Parities on any chain

A chain is any word, and what is stored for a parity wraps. A chain counts twice in it, so that an
even parity is always stored as an odd number and an odd parity as an even one. The parity is lost
only where an odd one wraps to zero, which stands for an even one, and the chain only where the
stored number wraps to 27 or 28, which stand for no chain. Two chains do the one and two the
other, and none of these has 64 bits. -/
namespace TxCourier

namespace Word

/-- Twice the chain wraps, and is then 36 short of zero. -/
def BlanksOddParity (chainId : Word) : Prop :=
  chainId.toNat % (size / 2) = size / 2 - 18

/-- Twice the chain wraps, and is then eight short of zero. -/
def HidesChain (chainId : Word) : Prop :=
  chainId.toNat % (size / 2) = size / 2 - 4

instance (chainId : Word) : Decidable chainId.BlanksOddParity := inferInstanceAs (Decidable (_ = _))

instance (chainId : Word) : Decidable chainId.HidesChain := inferInstanceAs (Decidable (_ = _))

theorem not_blanksOddParity {chainId : Word} (chain : chainId.toNat < UInt64.size) :
    ¬chainId.BlanksOddParity := by
  have small : chainId.toNat < 18446744073709551616 := chain
  unfold BlanksOddParity size
  omega

theorem not_hidesChain {chainId : Word} (chain : chainId.toNat < UInt64.size) :
    ¬chainId.HidesChain := by
  have small : chainId.toNat < 18446744073709551616 := chain
  unfold HidesChain size
  omega

end Word

/-! ## What is stored -/

/-- On the oldest type `v` wraps as all sums of words do. -/
theorem toNat_storedV_mod (chainId : Word) (parity : Bool) :
    (storedV (if parity then 1 else 0) chainId true).toNat
      = (35 + 2 * chainId.toNat + parity.toNat) % Word.size := by
  cases parity with
  | false =>
    simp [storedV, Word.ofUInt64, Word.size, BitVec.toNat_add, BitVec.toNat_mul]
    omega
  | true =>
    simp [storedV, Word.ofUInt64, Word.size, BitVec.toNat_add, BitVec.toNat_mul]
    omega

/-- What the chain adds to a parity. -/
theorem toNat_chained_mod (chainId : Word) :
    (35 + chainId * 2).toNat = (35 + 2 * chainId.toNat) % Word.size := by
  simp [Word.size, BitVec.toNat_add, BitVec.toNat_mul]
  omega

theorem storedV_eq_zero_iff {chainId : Word} {parity : Bool} :
    storedV (if parity then 1 else 0) chainId true = 0 ↔
      chainId.BlanksOddParity ∧ parity = true := by
  have bound := chainId.toNat_lt_size
  have bit := parity.toNat_le
  have zero : (0 : Word).toNat = 0 := rfl
  rw [← BitVec.toNat_inj, toNat_storedV_mod, ← Bool.toNat_eq_one, zero]
  unfold Word.BlanksOddParity
  unfold Word.size at *
  omega

/-- A parity that is raised by 27 is stored as it is without. -/
theorem storedV_raised (parity : Bool) (chainId : Word) (isLegacy : Bool) :
    storedV (if parity then 28 else 27) chainId isLegacy
      = storedV (if parity then 1 else 0) chainId isLegacy := by
  cases parity with
  | false => rfl
  | true => rfl

theorem storedV_typed (parity : Bool) (chainId : Word) :
    storedV (if parity then 1 else 0) chainId false = Word.ofBool parity := by
  cases parity <;> rfl

namespace Envelope

theorem isChainless_iff {v : Word} : isChainless v = true ↔ v.toNat = 27 ∨ v.toNat = 28 := by
  rw [isChainless, decide_eq_true_iff, ← BitVec.toNat_inj, ← BitVec.toNat_inj]
  rfl

theorem isChainless_storedV_iff (parity : Bool) (chainId : Word) :
    isChainless (storedV (if parity then 1 else 0) chainId true) = true ↔ chainId.HidesChain := by
  have bound := chainId.toNat_lt_size
  have bit := parity.toNat_le
  rw [isChainless_iff, toNat_storedV_mod]
  unfold Word.HidesChain
  unfold Word.size at *
  omega

theorem signature_applySignature (sig : Signature) (e : Envelope) :
    (e.applySignature (.signature sig)).signature
      = ⟨storedV (if sig.parity then 1 else 0) e.chainId (!e.type.isTyped), sig.r, sig.s⟩ := rfl

theorem v_applySignature {e : Envelope} (legacy : e.type = .legacy) (sig : Signature) :
    (e.applySignature (.signature sig)).signature.v
      = storedV (if sig.parity then 1 else 0) e.chainId true := by
  rw [signature_applySignature, legacy]
  rfl

/-! ## What is found again -/

theorem parityOffset_of_typed {e : Envelope} (typed : e.type ≠ .legacy) : e.parityOffset = 0 :=
  if_pos (.inl (TxType.isTyped_iff.mpr typed))

theorem parityOffset_of_legacy {e : Envelope} (legacy : e.type = .legacy)
    (positive : e.signature.v ≠ 0) :
    e.parityOffset = if e.isReplayProtected then 35 + e.chainId * 2 else 27 := by
  unfold parityOffset isReplayProtected
  rw [if_neg]
  · cases isChainless e.signature.v <;> rfl
  · rintro (typed | zero)
    · simp [legacy, TxType.isTyped] at typed
    · exact positive zero

theorem yParity_eq_ok_iff {e : Envelope} {parity : Bool} :
    e.yParity = .ok parity ↔ e.signature.v.toNat = e.parityOffset.toNat + parity.toNat := by
  unfold yParity Word.checkedSub
  by_cases below : e.parityOffset.toNat ≤ e.signature.v.toNat
  · have difference := BitVec.toNat_sub_of_le (BitVec.le_def.mpr below)
    rw [if_pos below]
    generalize e.signature.v - e.parityOffset = rest at difference
    by_cases zero : rest = 0
    · subst zero
      cases parity <;> simp at difference ⊢ <;> omega
    · by_cases one : rest = 1
      · subst one
        cases parity <;> simp at difference ⊢ <;> omega
      · have not_zero : rest.toNat ≠ 0 := fun h => zero (BitVec.eq_of_toNat_eq h)
        have not_one : rest.toNat ≠ 1 := fun h => one (BitVec.eq_of_toNat_eq h)
        dsimp only
        rw [if_neg zero, if_neg one]
        constructor
        · intro found
          cases found
        · intro sum
          cases parity <;> simp at sum <;> omega
  · rw [if_neg below]
    constructor
    · intro found
      cases found
    · intro sum
      omega

/-- Zero and the two numbers without a chain are read in their own way, and have the parity of what
was stored. Every other number is read as the chain and the parity that it was made of. -/
theorem yParity_applySignature_iff {e : Envelope} (legacy : e.type = .legacy) (sig : Signature) :
    (e.applySignature (.signature sig)).yParity = .ok sig.parity ↔
      ¬(e.chainId.BlanksOddParity ∧ sig.parity = true) := by
  have kept : (e.applySignature (.signature sig)).type = .legacy := legacy
  have chain : (e.applySignature (.signature sig)).chainId = e.chainId := rfl
  have stored := v_applySignature legacy sig
  have value := toNat_storedV_mod e.chainId sig.parity
  have offset := toNat_chained_mod e.chainId
  have bit := sig.parity.toNat_le
  rw [← storedV_eq_zero_iff, yParity_eq_ok_iff, ← stored]
  rw [← stored] at value
  generalize e.applySignature (.signature sig) = signed at *
  by_cases zero : signed.signature.v = 0
  · have odd : sig.parity = true := (storedV_eq_zero_iff.mp (stored ▸ zero)).2
    have bare : signed.parityOffset = 0 := if_pos (.inr zero)
    simp [bare, zero, odd]
  · have nonzero : signed.signature.v.toNat ≠ 0 := fun h => zero (BitVec.eq_of_toNat_eq h)
    refine iff_of_true ?_ zero
    rw [parityOffset_of_legacy kept zero, chain]
    unfold Word.size at *
    by_cases chainless : isChainless signed.signature.v = true
    · have unprotected : signed.isReplayProtected = false := by
        simp [isReplayProtected, chainless]
      have base : (27 : Word).toNat = 27 := rfl
      rw [unprotected, if_neg Bool.false_ne_true, base]
      rcases isChainless_iff.mp chainless with even | odd
      · omega
      · omega
    · have protects : signed.isReplayProtected = true := by
        simp [isReplayProtected, chainless]
      rw [protects, if_pos rfl, offset]
      omega

theorem isReplayProtected_applySignature_iff {e : Envelope} (legacy : e.type = .legacy)
    (sig : Signature) :
    (e.applySignature (.signature sig)).isReplayProtected = true ↔ ¬e.chainId.HidesChain := by
  rw [isReplayProtected, v_applySignature legacy, ← isChainless_storedV_iff sig.parity]
  simp

/-- On the oldest type a parity is found again behind any chain, unless it is odd and the chain is
one of the two that make zero of it, where an even one is found. The chain is signed unless it is
one of the two that make 27 or 28 of every parity. A parity that is raised by 27 is stored as it is
without, on every type. -/
theorem parity_stored_and_found {e : Envelope} (legacy : e.type = .legacy) (sig : Signature) :
    let signed := e.applySignature (.signature sig)
    (signed.yParity = .ok sig.parity ↔ ¬(e.chainId.BlanksOddParity ∧ sig.parity = true)) ∧
    (signed.isReplayProtected = true ↔ ¬e.chainId.HidesChain) ∧
    (signed.signature.v = 0 ↔ e.chainId.BlanksOddParity ∧ sig.parity = true) ∧
    (signed.signature.v = 27 ∨ signed.signature.v = 28 ↔ e.chainId.HidesChain) ∧
    ∀ (parity : Bool) chainId isLegacy, storedV (if parity then 28 else 27) chainId isLegacy
      = storedV (if parity then 1 else 0) chainId isLegacy := by
  intro signed
  have stored : signed.signature.v = storedV (if sig.parity then 1 else 0) e.chainId true :=
    v_applySignature legacy sig
  refine ⟨yParity_applySignature_iff legacy sig, isReplayProtected_applySignature_iff legacy sig,
    ?_, ?_, storedV_raised⟩
  · rw [stored]
    exact storedV_eq_zero_iff
  · rw [← isChainless_storedV_iff sig.parity, ← stored, isChainless, decide_eq_true_iff]

/-- A chain on which an odd parity is stored as zero and read as an even one. -/
def blankingChain : Word := BitVec.ofNat 256 (Word.size / 2 - 18)

/-- A chain on which an even parity is stored as 27, so that the chain is not signed. -/
def hidingChain : Word := BitVec.ofNat 256 (Word.size / 2 - 4)

theorem parity_stored_and_lost :
    ((new .legacy blankingChain).applySignature (.signature ⟨1, 2, true⟩)).yParity = .ok false ∧
      ((new .legacy blankingChain).applySignature (.signature ⟨1, 2, true⟩)).signature.v = 0 ∧
      ((new .legacy hidingChain).applySignature (.signature ⟨1, 2, false⟩)).isReplayProtected
        = false ∧
      ((new .legacy hidingChain).applySignature (.signature ⟨1, 2, false⟩)).signature.v = 27 := by
  exact ⟨rfl, by decide, by decide, by decide⟩

/-- Next to the chain that hides itself, twice the chain wraps as well, and nothing is lost. -/
theorem parity_stored_and_found_wrapped :
    (new .legacy (hidingChain + 1)).type = .legacy ∧
      ((new .legacy (hidingChain + 1)).applySignature (.signature ⟨1, 2, true⟩)).yParity
        = .ok true ∧
      ((new .legacy (hidingChain + 1)).applySignature
        (.signature ⟨1, 2, true⟩)).isReplayProtected = true := by
  have found := parity_stored_and_found (e := new .legacy (hidingChain + 1)) rfl ⟨1, 2, true⟩
  exact ⟨rfl, found.1.mpr (by decide), found.2.1.mpr (by decide)⟩

end Envelope

end TxCourier
