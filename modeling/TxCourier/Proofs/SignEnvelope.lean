import TxCourier.Account
import TxCourier.Proofs.Rlp
import TxCourier.Proofs.Signing

/-! # Signing an envelope

An account signs the digest of an envelope, and the outcome is stored on the envelope. What is
signed stays what the envelope says is signed, save on an envelope of the oldest type that carries a
`v` from before chains were told apart: the stored `v` is not of that kind any more, and so the
envelope then asks for a signature of its chain, which nobody gave. -/
namespace TxCourier

open Rlp

namespace Account

theorem signEnvelope_eq_ok {account : Account} {e after : Envelope} :
    account.signEnvelope e = .ok after ↔
      ∃ outcome, account.sign e.signingDigest = .ok outcome ∧ after = e.applySignature outcome := by
  unfold signEnvelope
  cases signed : account.sign e.signingDigest with
  | error failure => simp [bind, Except.bind]
  | ok outcome =>
    simp only [bind, Except.bind, pure, Except.pure, Except.ok.injEq, exists_eq_left']
    exact eq_comm

end Account

/-- Nobody signs with two zeros. -/
theorem Signature.signer_zero (parity : Bool) (digest : Hash) (a : Address) :
    Signature.signer ⟨0, 0, parity⟩ digest ≠ .ok a := by
  have nobody : Ecdsa.recover? ⟨0, 0, parity⟩ digest = none := by
    unfold Ecdsa.recover? Ecdsa.lowS
    simp
  intro signed
  rw [signer, nobody] at signed
  cases signed

namespace Envelope

/-- The items of the chain come to what was signed without them. -/
theorem length_signingPreimage_lt {e : Envelope} (chain : e.chainId.toNat < UInt64.size)
    (outcome : SignOutcome) (chainless : e.IsChainlessLegacy) :
    e.signingPreimage.length < (e.applySignature outcome).signingPreimage.length := by
  obtain ⟨legacy, old⟩ := chainless
  have before : e.signingItems = e.unsignedItems := by
    simp [signingItems_eq, isReplayProtected, old]
  have behind : (e.applySignature outcome).signingItems
      = e.unsignedItems ++ [.ofWord e.chainId, .ofNat 0, .ofNat 0] := by
    simp [signingItems_eq, legacy, isReplayProtected_applySignature legacy chain outcome]
  have plain (items : List Item) : encodeAs .legacy items = (Item.ofList items).encode := rfl
  rw [signingPreimage, signingPreimage, type_applySignature, legacy, before, behind, plain, plain]
  apply Item.length_encode_list_lt
  have zero : (Item.ofNat 0).encode.length = 1 := by decide +kernel
  simp only [encodeAll, List.flatMap_append, List.flatMap_cons, List.length_append, zero]
  omega

/-- The sender is sought with the signature and the parity that were stored. -/
theorem sender_eq_ok {e : Envelope} (chain : e.chainId.toNat < UInt64.size) (sig : Signature)
    (a : Address) :
    (e.applySignature (.signature sig)).sender = .ok a ↔
      sig.signer (e.applySignature (.signature sig)).signingDigest = .ok a := by
  by_cases zero : sig.r = 0 ∧ sig.s = 0
  · obtain ⟨r, s, parity⟩ := sig
    obtain ⟨rfl, rfl⟩ := zero
    constructor
    · intro sent
      unfold sender at sent
      rw [yParity_applySignature chain] at sent
      split at sent
      · cases sent
      · have found : Signature.signer ⟨0, 0, parity⟩
            (e.applySignature (.signature ⟨0, 0, parity⟩)).signingDigest = .ok a := sent
        exact absurd found (Signature.signer_zero parity _ a)
    · intro sent
      exact absurd sent (Signature.signer_zero parity _ a)
  · rw [sender_applySignature chain zero]

/-- What was signed is what the signed envelope says is signed, exactly where the envelope was not
of the oldest type with a `v` from before chains were told apart. There the sender is whoever made
the signature of that digest: the account, where its key is recovered. The parity is kept
everywhere. -/
theorem signEnvelope_keeps_digest {account : Account} {e after : Envelope}
    (chain : e.chainId.toNat < UInt64.size) (signed : account.signEnvelope e = .ok after) :
    (after.signingPreimage = e.signingPreimage ↔ ¬e.IsChainlessLegacy) ∧
    ∃ outcome, account.sign e.signingDigest = .ok outcome ∧
      (¬e.IsChainlessLegacy → after.signingDigest = e.signingDigest) ∧
      ∀ sig, outcome = .signature sig →
        after.signature.r = sig.r ∧ after.signature.s = sig.s ∧ after.yParity = .ok sig.parity ∧
        (¬e.IsChainlessLegacy →
          (∀ a, after.sender = .ok a ↔ sig.signer e.signingDigest = .ok a) ∧
          (Ecdsa.recover? sig e.signingDigest = some account.publicKey →
            after.sender = .ok account.address)) := by
  obtain ⟨outcome, answered, rfl⟩ := Account.signEnvelope_eq_ok.mp signed
  have digest := signingDigest_kept chain outcome
  refine ⟨⟨?_, signingPreimage_kept chain outcome⟩, outcome, answered, digest, ?_⟩
  · intro same chainless
    have longer := length_signingPreimage_lt chain outcome chainless
    rw [same] at longer
    exact Nat.lt_irrefl _ longer
  · rintro sig rfl
    refine ⟨rfl, rfl, yParity_applySignature chain sig, fun chained => ?_⟩
    have sender (a : Address) : (e.applySignature (.signature sig)).sender = .ok a ↔
        sig.signer e.signingDigest = .ok a := by
      rw [sender_eq_ok chain, digest chained]
    refine ⟨sender, fun recovered => (sender account.address).mpr ?_⟩
    rw [Signature.signer, recovered]
    rfl

/-- An envelope as it is read from a transaction that was signed before chains were told apart. -/
def chainlessSample : Envelope := (new .legacy 1).setSignature ⟨27, 1, 2⟩

/-- The same for whoever answers every digest with one signature. -/
def fixedSigner : Account := ⟨⟨0, 0⟩, fun _ => .ok (.signature ⟨1, 2, false⟩)⟩

/-- Signed again, such an envelope has another digest than the one that was signed, though its
parity is kept. -/
theorem signEnvelope_changes_digest_chainlessSample :
    ∃ after, fixedSigner.signEnvelope chainlessSample = .ok after ∧
      chainlessSample.chainId.toNat < UInt64.size ∧
      after.yParity = .ok false ∧
      after.signingDigest ≠ chainlessSample.signingDigest := by
  refine ⟨chainlessSample.applySignature (.signature ⟨1, 2, false⟩), rfl, by decide, ?_, ?_⟩
  · exact yParity_applySignature (by decide) ⟨1, 2, false⟩
  · decide +kernel

/-- A call on chain 5 that somebody has signed. -/
def chainedSample : Envelope :=
  { (ofFields 5 (.legacy 7)).setRecipient (some Address.zero) with
    nonce := 9, gas := 21000, value := 1000, data := [0xab], signature := ⟨46, 3, 4⟩ }

/-- Signed again with the other parity, it keeps what is signed. -/
theorem signEnvelope_keeps_digest_chainedSample :
    ∃ after, fixedSigner.signEnvelope chainedSample = .ok after ∧
      chainedSample.chainId.toNat < UInt64.size ∧ ¬chainedSample.IsChainlessLegacy ∧
      after.signingPreimage = chainedSample.signingPreimage ∧
      after.signingDigest = chainedSample.signingDigest ∧
      after.signature.r = 1 ∧ after.signature.s = 2 ∧
      chainedSample.yParity = .ok true ∧ after.yParity = .ok false := by
  have signed : fixedSigner.signEnvelope chainedSample
      = .ok (chainedSample.applySignature (.signature ⟨1, 2, false⟩)) := rfl
  have chained : ¬chainedSample.IsChainlessLegacy := by decide
  obtain ⟨same, outcome, answered, digest, stored⟩ :=
    signEnvelope_keeps_digest (by decide) signed
  cases answered
  obtain ⟨r, s, parity, -⟩ := stored _ rfl
  exact ⟨_, signed, by decide, chained, same.mpr chained, digest chained, r, s, rfl, parity⟩

end Envelope

end TxCourier
