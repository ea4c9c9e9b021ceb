import TxCourier.Account
import TxCourier.Proofs.Signing

/-! # Transactions that nobody signed

Where there is no signature nobody is the sender. On the oldest type a marker stands in its place,
which is not told from a signature: it is what a signature of two ones leaves behind, so that the
sender is whoever is recovered from that. How often someone is recovered is not asserted. -/
namespace TxCourier

/-- A scalar of the group other than zero is a word other than zero. -/
theorem Secp256k1.ofNat_ne_zero {m : Nat} (pos : 0 < m) (small : m < n) :
    BitVec.ofNat 256 m ≠ 0 := by
  intro zero
  have value : m % 2 ^ 256 = 0 := congrArg BitVec.toNat zero
  unfold n at small
  omega

theorem Ecdsa.nonzero_of_sign? {key : SecretKey} {digest : Hash} {sig : Signature}
    (signed : sign? key digest = some sig) : sig.r ≠ 0 ∧ sig.s ≠ 0 := by
  unfold sign? at signed
  simp only [Option.bind_eq_bind, Option.bind_eq_some_iff] at signed
  obtain ⟨k, -, ⟨x, y⟩, -, signed⟩ := signed
  dsimp only at signed
  have order : 0 < Secp256k1.n := by decide
  generalize hr : x % Secp256k1.n = r at signed
  generalize hs : Secp256k1.inverse Secp256k1.n k *
    ((FixedBytes.toNat digest % Secp256k1.n + r * key.scalar) % Secp256k1.n) % Secp256k1.n = s
    at signed
  have small_r : r < Secp256k1.n := hr ▸ Nat.mod_lt x order
  have small_s : s < Secp256k1.n := hs ▸ Nat.mod_lt _ order
  split at signed
  · cases signed
  · rename_i nonzero
    have r_ne := Secp256k1.ofNat_ne_zero (m := r) (by omega) small_r
    split at signed
    · cases signed
      exact ⟨r_ne, Secp256k1.ofNat_ne_zero (by omega) (by omega)⟩
    · cases signed
      exact ⟨r_ne, Secp256k1.ofNat_ne_zero (by omega) small_s⟩

namespace Envelope

/-- Without any signature or, on the oldest type, with the marker in its place. -/
def isUnsigned (e : Envelope) : Bool :=
  e.signature.isEmpty || (!e.type.isTyped && e.signature.isUnsignedMarker)

theorem isUnsigned_congr {a b : Envelope} (type : a.type = b.type)
    (signature : a.signature = b.signature) : a.isUnsigned = b.isUnsigned := by
  rw [isUnsigned, isUnsigned, type, signature]

theorem signature_noSignature_of_typed {e : Envelope} (typed : e.type ≠ .legacy) :
    (e.applySignature .noSignature).signature = .empty := by
  simp [applySignature, setSignature, TxType.isTyped_iff.mpr typed]

/-- Every chain is stored as an odd number, so that the marker is never taken for nothing. -/
theorem storedV_noSignature_ne_zero (chainId : Word) : storedV 27 chainId true ≠ 0 := by
  intro zero
  have lost : chainId.BlanksOddParity ∧ false = true := storedV_eq_zero_iff.mp zero
  cases lost.2

/-- Whatever its type and its chain, an envelope stays unsigned where a signer gave nothing. -/
theorem isUnsigned_noSignature (e : Envelope) :
    (e.applySignature .noSignature).isUnsigned = true := by
  by_cases legacy : e.type = .legacy
  · have stored : (e.applySignature .noSignature).signature
        = ⟨storedV 27 e.chainId true, 1, 1⟩ := by
      simp [applySignature, setSignature, legacy, TxType.isTyped]
    have marker : (e.applySignature .noSignature).signature.isUnsignedMarker = true := by
      rw [stored]
      exact decide_eq_true ⟨storedV_noSignature_ne_zero e.chainId, rfl, rfl⟩
    simp [isUnsigned, marker, TxType.isTyped_eq_false_iff.mpr legacy]
  · have blank := signature_noSignature_of_typed legacy
    simp [isUnsigned, blank, RawSignature.isEmpty, RawSignature.empty]

/-- A signature is not taken for none, save that of two ones on the oldest type. -/
theorem isUnsigned_signature {e : Envelope} {sig : Signature} (nonzero : ¬(sig.r = 0 ∧ sig.s = 0))
    (unmarked : e.type = .legacy → ¬(sig.r = 1 ∧ sig.s = 1)) :
    (e.applySignature (.signature sig)).isUnsigned = false := by
  have there := isEmpty_applySignature (e := e) nonzero
  by_cases legacy : e.type = .legacy
  · have unmarked : (e.applySignature (.signature sig)).signature.isUnsignedMarker = false :=
      decide_eq_false fun marker => unmarked legacy marker.2
    simp [isUnsigned, there, unmarked]
  · simp [isUnsigned, there, TxType.isTyped_iff.mpr legacy]

/-- On the oldest type the lack of a signature is stored as a signature of two ones. -/
theorem noSignature_of_legacy {e : Envelope} (legacy : e.type = .legacy) :
    e.applySignature .noSignature = e.applySignature (.signature ⟨1, 1, false⟩) := by
  simp [applySignature, legacy, TxType.isTyped, storedV_noSignature]

theorem sender_noSignature_of_legacy {e : Envelope} (legacy : e.type = .legacy)
    (chain : e.chainId.toNat < UInt64.size) :
    (e.applySignature .noSignature).sender
      = Signature.signer ⟨1, 1, false⟩ (e.applySignature .noSignature).signingDigest := by
  rw [noSignature_of_legacy legacy]
  exact sender_applySignature chain (by decide)

/-- The marker tells the chain as a signature does, with the parity zero. -/
theorem signature_noSignature_of_legacy {e : Envelope} (legacy : e.type = .legacy)
    (chain : e.chainId.toNat < UInt64.size) :
    (e.applySignature .noSignature).signature
      = ⟨BitVec.ofNat 256 (35 + 2 * e.chainId.toNat), 1, 1⟩ := by
  have told : storedV 0 e.chainId true = BitVec.ofNat 256 (35 + 2 * e.chainId.toNat) := by
    have value := toNat_storedV chain false
    simp only [Bool.false_eq_true, if_false, Nat.add_zero] at value
    rw [← value, BitVec.ofNat_toNat, BitVec.setWidth_eq]
  rw [noSignature_of_legacy legacy, signature_applySignature, legacy]
  simp [TxType.isTyped, told]

/-- Nobody is the sender where there is no signature, nor behind every code once a signer gave none.
On the oldest type the marker that is stored then is taken for a signature of two ones, so that a
sender is refused only where nobody is recovered from that. -/
theorem sender_of_nobody {e : Envelope} (chain : e.chainId.toNat < UInt64.size) :
    (e.signature.isEmpty = true → e.sender = .error (.invalidSignature .unsigned)) ∧
    (∀ key, (Account.observing key).signEnvelope e = .ok (e.applySignature .noSignature)) ∧
    (e.type ≠ .legacy →
      (e.applySignature .noSignature).sender = .error (.invalidSignature .unsigned)) ∧
    (e.type = .legacy →
      (e.applySignature .noSignature).signature
        = ⟨BitVec.ofNat 256 (35 + 2 * e.chainId.toNat), 1, 1⟩ ∧
      ∀ a, (e.applySignature .noSignature).sender = .ok a ↔
        ∃ key, Ecdsa.recover? ⟨1, 1, false⟩ (e.applySignature .noSignature).signingDigest
          = some key ∧ a = key.address) ∧
    ((∃ fault, (e.applySignature .noSignature).sender = .error (.invalidSignature fault)) ↔
      e.type ≠ .legacy ∨
        Ecdsa.recover? ⟨1, 1, false⟩ (e.applySignature .noSignature).signingDigest = none) := by
  have behind (typed : e.type ≠ .legacy) :
      (e.applySignature .noSignature).sender = .error (.invalidSignature .unsigned) := by
    apply sender_of_isEmpty
    rw [signature_noSignature_of_typed typed]
    rfl
  refine ⟨sender_of_isEmpty, fun _ => rfl, behind, fun legacy => ⟨?_, fun a => ?_⟩, ?_⟩
  · exact signature_noSignature_of_legacy legacy chain
  · rw [sender_noSignature_of_legacy legacy chain, Signature.signer]
    cases Ecdsa.recover? ⟨1, 1, false⟩ (e.applySignature .noSignature).signingDigest with
    | none => simp
    | some key => simp [eq_comm]
  · by_cases legacy : e.type = .legacy
    · rw [sender_noSignature_of_legacy legacy chain, Signature.signer]
      cases Ecdsa.recover? ⟨1, 1, false⟩ (e.applySignature .noSignature).signingDigest with
      | none => simp
      | some key => simp [legacy]
    · exact iff_of_true ⟨_, behind legacy⟩ (.inl legacy)

/-- Somebody is taken for the sender of a transaction of the oldest type that nobody signed. -/
theorem sender_of_nobody_fails_legacy :
    (Account.observing ⟨0, 0⟩).signEnvelope (new .legacy 1)
        = .ok ((new .legacy 1).applySignature .noSignature) ∧
      ((new .legacy 1).applySignature .noSignature).sender
        = .ok (FixedBytes.ofNat 20 0xdb6dbb9bfc13a773acfdacf1b9094914dbc02985) := by
  exact ⟨rfl, sender_eq_ok_iff.mpr (by decide +kernel)⟩

theorem sender_of_nobody_setCode :
    (new .setCode 1).chainId.toNat < UInt64.size ∧ (new .setCode 1).type ≠ .legacy ∧
      ((new .setCode 1).applySignature .noSignature).sender
        = .error (.invalidSignature .unsigned) :=
  ⟨by decide, by decide, (sender_of_nobody (by decide)).2.2.1 (by decide)⟩

end Envelope

end TxCourier
