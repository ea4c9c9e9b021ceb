import TxCourier.Envelope.Exchange
import TxCourier.Proofs.Canonical
import TxCourier.Proofs.Sidecar
import TxCourier.Proofs.Words

/-! # Signed envelopes on the wire

A signed envelope whose chain and fees have room in the format is read back from its wire form, but
for the blobs that travel beside it. That the recovered address is the signer's is not asserted:
what is kept is the signature, its parity and the digest. -/
namespace TxCourier

/-- The prices and caps of a type. -/
def Fields.fees : Fields → List Word
  | legacy price | accessList price _ => [price]
  | dynamicFee fees _ | setCode fees _ _ => [fees.tip, fees.cap]
  | blob fees _ cap _ _ => [fees.tip, fees.cap, cap]

namespace Envelope

open Rlp

/-! ## Between the two forms -/

section OfCanonical

variable (t : CanonicalTx) (fallback : Option Word)

@[simp] theorem chainId_ofCanonical :
    (ofCanonical t fallback).chainId = (partsOf t fallback).1 := rfl

@[simp] theorem nonce_ofCanonical : (ofCanonical t fallback).nonce = t.nonce := rfl

@[simp] theorem gas_ofCanonical : (ofCanonical t fallback).gas = t.gas := rfl

@[simp] theorem value_ofCanonical : (ofCanonical t fallback).value = t.value := rfl

@[simp] theorem data_ofCanonical : (ofCanonical t fallback).data = t.data := rfl

@[simp] theorem fields_ofCanonical :
    (ofCanonical t fallback).fields = (partsOf t fallback).2.1 := rfl

@[simp] theorem recipient_ofCanonical :
    (ofCanonical t fallback).recipient
      = (partsOf t fallback).2.1.type.recipient (partsOf t fallback).2.2 := rfl

@[simp] theorem signature_ofCanonical :
    (ofCanonical t fallback).signature = storedSignature t (partsOf t fallback).1 := rfl

@[simp] theorem type_ofCanonical : (ofCanonical t fallback).type = t.type := by
  rw [type, fields_ofCanonical]
  unfold partsOf CanonicalTx.type
  cases t.body <;> rfl

/-- The blobs are left behind. -/
theorem ofCanonical_withBlobs (blobs : TravellingBlobs) :
    ofCanonical (t.withBlobs blobs) fallback = ofCanonical t fallback := by
  obtain ⟨nonce, gas, value, data, body, sig⟩ := t
  cases body <;> rfl

end OfCanonical

theorem ofWord_ofUInt64 (n : UInt64) : Item.ofWord (Word.ofUInt64 n) = Item.ofUInt64 n := by
  simp [Item.ofWord, Item.ofUInt64]

theorem ofWord_ofFee (f : Fee) : Item.ofWord (Word.ofFee f) = Item.ofNat f.toNat := by
  simp [Item.ofWord]

/-- The fields of a canonical transaction are written as those of its envelope. -/
theorem unsignedItems_ofCanonical (t : CanonicalTx) (fallback : Option Word) :
    (ofCanonical t fallback).unsignedItems
      ++ [.ofNat t.v, .ofWord t.signature.r, .ofWord t.signature.s] = t.items := by
  obtain ⟨nonce, gas, value, data, body, sig⟩ := t
  cases body <;>
    simp [unsignedItems, recipientItem_eq, CanonicalTx.items, partsOf, Fields.type,
      TxType.recipient, TxType.needsRecipient, ofWord_ofUInt64, ofWord_ofFee]

/-- The signature of a canonical transaction is stored as it is written, unless it is taken for the
marker. -/
theorem items_storedSignature {t : CanonicalTx}
    (unmarked : t.type = .legacy → ¬(t.signature.r = 1 ∧ t.signature.s = 1))
    (fallback : Option Word) :
    (storedSignature t (partsOf t fallback).1).items
      = [.ofNat t.v, .ofWord t.signature.r, .ofWord t.signature.s] := by
  obtain ⟨nonce, gas, value, data, body, sig⟩ := t
  cases body with
  | legacy chainId price recipient =>
    have real := unmarked rfl
    cases chainId with
    | none =>
      simp only [storedSignature, if_neg real]
      cases parity : sig.parity <;>
        simp [RawSignature.items, Item.ofWord, CanonicalTx.v, parity, Word.ofUInt64]
    | some c =>
      have small : (Word.ofUInt64 c).toNat < UInt64.size := by simpa using c.toNat_lt
      have value := toNat_storedV small sig.parity
      simp only [storedSignature, if_neg real, partsOf]
      simp [RawSignature.items, Item.ofWord, CanonicalTx.v, value]
  | _ =>
    cases parity : sig.parity <;>
      simp [storedSignature, RawSignature.items, Item.ofWord, CanonicalTx.v, parity, Word.ofBool]

theorem signedItems_ofCanonical {t : CanonicalTx}
    (unmarked : t.type = .legacy → ¬(t.signature.r = 1 ∧ t.signature.s = 1))
    (fallback : Option Word) : (ofCanonical t fallback).signedItems = t.items := by
  rw [signedItems, signature_ofCanonical, items_storedSignature unmarked]
  exact unsignedItems_ofCanonical t fallback

/-- An envelope is that of a canonical transaction with the same body and signature. -/
theorem ofCanonical_eq_withoutSidecar {e : Envelope} {body : CanonicalBody} {sig : Signature}
    {fallback : Option Word}
    (parts : partsOf ⟨e.nonce, e.gas, e.value, e.data, body, sig⟩ fallback
      = (e.chainId, e.fields.withoutSidecar, e.recipient))
    (stored : storedSignature ⟨e.nonce, e.gas, e.value, e.data, body, sig⟩ e.chainId
      = e.signature) :
    ofCanonical ⟨e.nonce, e.gas, e.value, e.data, body, sig⟩ fallback = e.withoutSidecar := by
  rw [withoutSidecar_eq]
  apply Envelope.ext <;> simp [parts, stored, setFields]

/-- An envelope signed for a chain and for fees that fit is that of a canonical transaction. -/
theorem exists_canonical {e : Envelope} {sig : Signature} (chain : e.chainId.toNat < UInt64.size)
    (fees : ∀ fee ∈ e.fields.fees, fee.toNat < Fee.size)
    (unmarked : e.type = .legacy → ¬(sig.r = 1 ∧ sig.s = 1)) :
    ∃ t : CanonicalTx, t.blobs? = none ∧ t.signature = sig ∧
      ofCanonical t none = (e.applySignature (.signature sig)).withoutSidecar := by
  -- In each case the body has the fields that were given, with chain and fees in narrower types.
  have same (body : CanonicalBody) := @ofCanonical_eq_withoutSidecar
    (e.applySignature (.signature sig)) body sig none
  simp only [signature_applySignature, fields_applySignature, recipient_applySignature,
    chainId_applySignature] at same
  obtain ⟨c, told⟩ := Word.exists_ofUInt64 chain
  have fit (w : Word) (member : w ∈ e.fields.fees) := Word.exists_ofFee (fees w member)
  cases fields : e.fields with
  | legacy price =>
    obtain ⟨p, price⟩ := fit price (by simp [fields, Fields.fees])
    have real := unmarked (by simp [type, fields, Fields.type])
    refine ⟨_, ?_, ?_, same (.legacy (some c) p e.recipient) ?_ ?_⟩
    · rfl
    · rfl
    · simp [partsOf, fields, Fields.withoutSidecar, Fields.withSidecar?, told, price]
    · simp only [storedSignature, if_neg real]
      simp [type, fields, Fields.type, TxType.isTyped]
  | accessList price list =>
    obtain ⟨p, price⟩ := fit price (by simp [fields, Fields.fees])
    refine ⟨_, ?_, ?_, same (.accessList c p e.recipient list) ?_ ?_⟩
    · rfl
    · rfl
    · simp [partsOf, fields, Fields.withoutSidecar, Fields.withSidecar?, told, price]
    · simp [storedSignature, type, fields, Fields.type, TxType.isTyped, storedV_typed]
  | dynamicFee caps list =>
    obtain ⟨tip, tipped⟩ := fit caps.tip (by simp [fields, Fields.fees])
    obtain ⟨cap, capped⟩ := fit caps.cap (by simp [fields, Fields.fees])
    refine ⟨_, ?_, ?_, same (.dynamicFee c ⟨tip, cap⟩ e.recipient list) ?_ ?_⟩
    · rfl
    · rfl
    · simp [partsOf, fields, Fields.withoutSidecar, Fields.withSidecar?, told, ← tipped, ← capped]
    · simp [storedSignature, type, fields, Fields.type, TxType.isTyped, storedV_typed]
  | blob caps list blobFee hashes sidecar =>
    obtain ⟨tip, tipped⟩ := fit caps.tip (by simp [fields, Fields.fees])
    obtain ⟨cap, capped⟩ := fit caps.cap (by simp [fields, Fields.fees])
    obtain ⟨b, blobFee⟩ := fit blobFee (by simp [fields, Fields.fees])
    obtain ⟨a, whom⟩ := Option.isSome_iff_exists.mp
      (e.recipient_isSome (by simp [fields, Fields.type, TxType.needsRecipient]))
    refine ⟨_, ?_, ?_, same (.blob c ⟨tip, cap⟩ a list b hashes none) ?_ ?_⟩
    · rfl
    · rfl
    · simp [partsOf, fields, Fields.withoutSidecar, Fields.withSidecar?, told, ← tipped, ← capped,
        blobFee, whom]
    · simp [storedSignature, type, fields, Fields.type, TxType.isTyped, storedV_typed]
  | setCode caps list auths =>
    obtain ⟨tip, tipped⟩ := fit caps.tip (by simp [fields, Fields.fees])
    obtain ⟨cap, capped⟩ := fit caps.cap (by simp [fields, Fields.fees])
    obtain ⟨a, whom⟩ := Option.isSome_iff_exists.mp
      (e.recipient_isSome (by simp [fields, Fields.type, TxType.needsRecipient]))
    refine ⟨_, ?_, ?_, same (.setCode c ⟨tip, cap⟩ a list auths) ?_ ?_⟩
    · rfl
    · rfl
    · simp [partsOf, fields, Fields.withoutSidecar, Fields.withSidecar?, told, ← tipped, ← capped,
        whom]
    · simp [storedSignature, type, fields, Fields.type, TxType.isTyped, storedV_typed]

/-- The wire form of such an envelope is the encoding of a canonical transaction, blobs included. -/
theorem exists_canonical_wire {e : Envelope} {sig : Signature}
    (chain : e.chainId.toNat < UInt64.size) (fees : ∀ fee ∈ e.fields.fees, fee.toNat < Fee.size)
    (unmarked : e.type = .legacy → ¬(sig.r = 1 ∧ sig.s = 1)) :
    ∃ t : CanonicalTx, t.encoded = (e.applySignature (.signature sig)).wire ∧
      ofCanonical t none = (e.applySignature (.signature sig)).withoutSidecar := by
  obtain ⟨t, plain, sig_eq, same⟩ := exists_canonical chain fees unmarked
  have type_eq : t.type = e.type := by
    rw [← type_ofCanonical t none, same, type_withoutSidecar, type_applySignature]
  have items : (e.applySignature (.signature sig)).signedItems = t.items := by
    rw [← signedItems_withoutSidecar, ← same]
    exact signedItems_ofCanonical (by rw [type_eq, sig_eq]; exact unmarked) none
  unfold wire
  rw [fields_applySignature]
  cases carried : e.fields.sidecar? with
  | none =>
    refine ⟨t, ?_, same⟩
    simp [CanonicalTx.encoded, plain, CanonicalTx.canonicalBytes, encoded, items, type_eq]
  | some sidecar =>
    have blob : e.type = .blob := Fields.type_of_sidecar carried
    refine ⟨t.withBlobs ⟨false, sidecar⟩, ?_, (ofCanonical_withBlobs t none _).trans same⟩
    have beside := CanonicalTx.blobs?_withBlobs (type_eq.trans blob) ⟨false, sidecar⟩
    simp [CanonicalTx.encoded, beside, items]

/-- A signed envelope is read back from its wire form as it was but for the blobs, which stand
behind the list of fields in that form. It is known by the same hash, and its sender is sought with
the same signature and parity in the digest that was signed. -/
theorem ofWire_wire_signed {e : Envelope} {sig : Signature} (unsigned : e.signature = .empty)
    (chain : e.chainId.toNat < UInt64.size) (fees : ∀ fee ∈ e.fields.fees, fee.toNat < Fee.size)
    (nonzero : ¬(sig.r = 0 ∧ sig.s = 0))
    (unmarked : e.type = .legacy → ¬(sig.r = 1 ∧ sig.s = 1))
    (sized : (e.applySignature (.signature sig)).wire.length < UInt64.size) :
    (∀ sidecar, e.fields.sidecar? = some sidecar →
      (e.applySignature (.signature sig)).wire
        = 0x03 :: (Item.ofList (.ofList (e.applySignature (.signature sig)).signedItems
            :: sidecar.items)).encode) ∧
    ∃ read, ofWire (e.applySignature (.signature sig)).wire = .ok read ∧
      read = (e.applySignature (.signature sig)).withoutSidecar ∧
      read.hash = (e.applySignature (.signature sig)).hash ∧
      read.sender = sig.signer e.signingDigest := by
  obtain ⟨t, wire, same⟩ := exists_canonical_wire chain fees unmarked
  refine ⟨?_, (e.applySignature (.signature sig)).withoutSidecar, ?_, rfl, ?_, ?_⟩
  · intro sidecar carried
    unfold Envelope.wire
    rw [fields_applySignature, carried]
    rfl
  · rw [← wire] at sized ⊢
    have read := CanonicalTx.read?_encoded sized []
    rw [List.append_nil] at read
    simp [ofWire, read, same]
  · rw [hash, hash, encoded_withoutSidecar]
  · have fresh : ¬e.IsChainlessLegacy := by
      rintro ⟨-, chainless⟩
      rw [unsigned] at chainless
      exact absurd chainless (by decide)
    rw [sender_withoutSidecar, sender_applySignature chain nonzero,
      signingDigest_kept chain _ fresh]

/-- A blob transaction with an announced storage key and with a commitment beside it. -/
def blobSample : Envelope :=
  (ofFields 5 (.blob ⟨1, 200⟩ [⟨Address.zero, [FixedBytes.replicate 32 7]⟩] 3
    [FixedBytes.replicate 32 1] (some ⟨[], [FixedBytes.replicate 48 9], []⟩))).setData
      (List.replicate 80 0xff)

theorem ofWire_wire_signed_blobSample :
    blobSample.signature = .empty ∧ blobSample.chainId.toNat < UInt64.size ∧
      (∀ fee ∈ blobSample.fields.fees, fee.toNat < Fee.size) ∧
      (blobSample.applySignature (.signature ⟨1, 1, true⟩)).wire.length = 264 ∧
      (∀ sidecar, blobSample.fields.sidecar? = some sidecar →
        (blobSample.applySignature (.signature ⟨1, 1, true⟩)).wire
          = 0x03 :: (Item.ofList
              (.ofList (blobSample.applySignature (.signature ⟨1, 1, true⟩)).signedItems
                :: sidecar.items)).encode) ∧
      ∃ read, ofWire (blobSample.applySignature (.signature ⟨1, 1, true⟩)).wire = .ok read ∧
        read = (blobSample.applySignature (.signature ⟨1, 1, true⟩)).withoutSidecar ∧
        read.hash = (blobSample.applySignature (.signature ⟨1, 1, true⟩)).hash ∧
        read.sender = Signature.signer ⟨1, 1, true⟩ blobSample.signingDigest := by
  have length : (blobSample.applySignature (.signature ⟨1, 1, true⟩)).wire.length = 264 := by
    decide +kernel
  have fees : ∀ fee ∈ blobSample.fields.fees, fee.toNat < Fee.size := by
    simp [blobSample, setData, ofFields, Fields.fees, Fee.size]
  refine ⟨rfl, by decide +kernel, fees, length, ?_⟩
  exact ofWire_wire_signed rfl (by decide +kernel) fees (by decide) (fun legacy => by cases legacy)
    (by rw [length]; decide)

end Envelope

end TxCourier
