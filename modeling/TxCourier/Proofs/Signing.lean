import TxCourier.Proofs.StoredParity

/-! # What signing keeps

The stored form of a signature tells its parity again, and on all types but the oldest it has no
part in what is signed. On the oldest type the present `v` decides whether the chain is signed, and
signing replaces it. -/
namespace TxCourier

/-- On the oldest type `v` wraps for no chain of 64 bits. -/
theorem toNat_storedV {chainId : Word} (chain : chainId.toNat < UInt64.size) (parity : Bool) :
    (storedV (if parity then 1 else 0) chainId true).toNat
      = 35 + 2 * chainId.toNat + if parity then 1 else 0 := by
  have small : chainId.toNat < 18446744073709551616 := chain
  have bit := parity.toNat_le
  have sum : 35 + 2 * chainId.toNat + parity.toNat < Word.size := by
    unfold Word.size
    omega
  rw [toNat_storedV_mod, Nat.mod_eq_of_lt sum]
  cases parity with
  | false => rfl
  | true => rfl

theorem storedV_noSignature (chainId : Word) :
    storedV 27 chainId true = storedV 0 chainId true := rfl

namespace Envelope

open Rlp

/-! ## What is signed -/

/-- On the oldest type the chain may follow the fields, and on the others nothing does. -/
theorem signingItems_eq (e : Envelope) :
    e.signingItems = e.unsignedItems ++
      if e.type = .legacy ∧ e.isReplayProtected = true then
        [.ofWord e.chainId, .ofNat 0, .ofNat 0]
      else [] := by
  unfold signingItems
  cases fields : e.fields with
  | legacy price =>
    have legacy : e.type = .legacy := by simp [type, fields, Fields.type]
    cases replay : e.isReplayProtected <;> simp [legacy]
  | _ => simp [type, fields, Fields.type]

@[simp] theorem type_applySignature (outcome : SignOutcome) (e : Envelope) :
    (e.applySignature outcome).type = e.type := rfl

@[simp] theorem chainId_applySignature (outcome : SignOutcome) (e : Envelope) :
    (e.applySignature outcome).chainId = e.chainId := rfl

@[simp] theorem fields_applySignature (outcome : SignOutcome) (e : Envelope) :
    (e.applySignature outcome).fields = e.fields := rfl

@[simp] theorem recipient_applySignature (outcome : SignOutcome) (e : Envelope) :
    (e.applySignature outcome).recipient = e.recipient := rfl

@[simp] theorem unsignedItems_applySignature (outcome : SignOutcome) (e : Envelope) :
    (e.applySignature outcome).unsignedItems = e.unsignedItems := rfl

theorem isChainless_storedV {chainId : Word} (chain : chainId.toNat < UInt64.size)
    (parity : Bool) : isChainless (storedV (if parity then 1 else 0) chainId true) = false := by
  rw [Bool.eq_false_iff, ne_eq, isChainless_storedV_iff]
  exact Word.not_hidesChain chain

/-- On the oldest type a signature for a chain of 64 bits always signs the chain. -/
theorem isReplayProtected_applySignature {e : Envelope} (legacy : e.type = .legacy)
    (chain : e.chainId.toNat < UInt64.size) (outcome : SignOutcome) :
    (e.applySignature outcome).isReplayProtected = true := by
  cases outcome with
  | signature sig =>
    have chained := isChainless_storedV chain sig.parity
    simpa [isReplayProtected, applySignature, setSignature, legacy, TxType.isTyped] using chained
  | noSignature =>
    have chained := isChainless_storedV chain false
    simpa [isReplayProtected, applySignature, setSignature, legacy, TxType.isTyped,
      storedV_noSignature] using chained

/-- A `v` from before chains were told apart, on the type that knows such. -/
def IsChainlessLegacy (e : Envelope) : Prop := e.type = .legacy ∧ isChainless e.signature.v = true

instance (e : Envelope) : Decidable e.IsChainlessLegacy := inferInstanceAs (Decidable (_ ∧ _))

/-- What is signed stays the same, unless the chain comes to it. -/
theorem signingPreimage_kept {e : Envelope} (chain : e.chainId.toNat < UInt64.size)
    (outcome : SignOutcome) (chained : ¬e.IsChainlessLegacy) :
    (e.applySignature outcome).signingPreimage = e.signingPreimage := by
  have items : (e.applySignature outcome).signingItems = e.signingItems := by
    rw [signingItems_eq, signingItems_eq]
    by_cases legacy : e.type = .legacy
    · have before : e.isReplayProtected = true := by
        cases chainless : isChainless e.signature.v with
        | true => exact absurd ⟨legacy, chainless⟩ chained
        | false => simp [isReplayProtected, chainless]
      simp [legacy, before, isReplayProtected_applySignature legacy chain]
    · simp [legacy]
  simp [signingPreimage, items]

theorem signingDigest_kept {e : Envelope} (chain : e.chainId.toNat < UInt64.size)
    (outcome : SignOutcome) (chained : ¬e.IsChainlessLegacy) :
    (e.applySignature outcome).signingDigest = e.signingDigest := by
  rw [signingDigest, signingDigest, signingPreimage_kept chain outcome chained]

/-! ## The parity -/

/-- The parity of a signature is found again in its stored form. -/
theorem yParity_applySignature {e : Envelope} (chain : e.chainId.toNat < UInt64.size)
    (sig : Signature) : (e.applySignature (.signature sig)).yParity = .ok sig.parity := by
  by_cases legacy : e.type = .legacy
  · rw [yParity_applySignature_iff legacy]
    exact fun lost => Word.not_blanksOddParity chain lost.1
  · have typed : e.type.isTyped = true := TxType.isTyped_iff.mpr legacy
    have kept : (e.applySignature (.signature sig)).type ≠ .legacy := legacy
    rw [yParity_eq_ok_iff, parityOffset_of_typed kept, signature_applySignature, typed]
    cases sig.parity with
    | false => rfl
    | true => rfl

/-! ## The sender -/

theorem sender_of_isEmpty {e : Envelope} (empty : e.signature.isEmpty = true) :
    e.sender = .error (.invalidSignature .unsigned) := by
  unfold sender
  rw [if_pos empty]

/-- A sender is found by running, whatever is said where there is none. -/
theorem sender_eq_ok_iff {e : Envelope} {a : Address} :
    e.sender = .ok a ↔ e.sender.toOption = some a := by
  cases e.sender <;> simp [Except.toOption]

theorem isEmpty_applySignature {e : Envelope} {sig : Signature}
    (nonzero : ¬(sig.r = 0 ∧ sig.s = 0)) :
    (e.applySignature (.signature sig)).signature.isEmpty = false :=
  decide_eq_false fun empty => nonzero empty.2

theorem sender_applySignature {e : Envelope} (chain : e.chainId.toNat < UInt64.size)
    {sig : Signature} (nonzero : ¬(sig.r = 0 ∧ sig.s = 0)) :
    (e.applySignature (.signature sig)).sender
      = sig.signer (e.applySignature (.signature sig)).signingDigest := by
  unfold sender
  rw [isEmpty_applySignature nonzero, yParity_applySignature chain]
  rfl

end Envelope

end TxCourier
