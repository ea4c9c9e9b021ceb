import TxCourier.Proofs.Acceptance

/-! # The wire and the conversion

An envelope reaches other programs by its wire form or by its canonical transaction. Both are the
same transaction, but for one: the conversion takes a `v` of zero on the oldest type for a parity,
and the wire form has it as it is, which no reader accepts. -/
namespace TxCourier

namespace Envelope

open Rlp

/-! ## What the conversion finds -/

section

variable {ε α β : Type} {x : Except ε α} {f : α → Except ε β} {b : β}

theorem bind_eq_ok : x >>= f = .ok b ↔ ∃ a, x = .ok a ∧ f a = .ok b := by
  cases x <;> simp [bind, Except.bind]

end

theorem eq_of_fee {field : String} {w : Word} {f : Fee} (found : fee field w = .ok f) :
    w = Word.ofFee f := by
  unfold fee at found
  split at found
  · rename_i narrowed
    cases found
    exact Word.eq_of_toFee? narrowed
  · cases found

theorem eq_of_feePair {caps : FeeCaps} {fees : FeePair} (found : feePair caps = .ok fees) :
    caps = ⟨Word.ofFee fees.tip, Word.ofFee fees.cap⟩ := by
  obtain ⟨cap, capped, found⟩ := bind_eq_ok.mp found
  obtain ⟨tip, tipped, same⟩ := bind_eq_ok.mp found
  cases same
  rw [← eq_of_fee capped, ← eq_of_fee tipped]

/-- The stored `v` is the parity above what its kind adds to it. -/
theorem v_of_yParity {e : Envelope} {parity : Bool} (found : e.yParity = .ok parity) :
    e.signature.v = Word.ofBool parity + e.parityOffset := by
  unfold yParity at found
  split at found
  · cases found
  · rename_i bit difference
    rw [Word.eq_of_checkedSub difference]
    split at found
    · rename_i zero
      cases found
      rw [zero]
      rfl
    split at found
    · rename_i one
      cases found
      rw [one]
      rfl
    · cases found

theorem toCanonical_eq_ok {e : Envelope} {g : CanonicalTx} (converted : e.toCanonical = .ok g) :
    ∃ chainId parity body, e.chainId = Word.ofUInt64 chainId ∧ e.marked.yParity = .ok parity ∧
      e.canonicalBody chainId = .ok body ∧
      g = ⟨e.nonce, e.gas, e.value, e.data, body,
        ⟨e.marked.signature.r, e.marked.signature.s, parity⟩⟩ := by
  unfold toCanonical at converted
  split at converted
  · cases converted
  · rename_i chainId narrowed
    obtain ⟨parity, known, converted⟩ := bind_eq_ok.mp converted
    obtain ⟨body, fitted, same⟩ := bind_eq_ok.mp converted
    cases same
    exact ⟨chainId, parity, body, Word.eq_of_toUInt64? narrowed, known, fitted, rfl⟩

/-- With a signature no marker is needed. -/
theorem marked_of_signed {e : Envelope} (signed : e.signature.isEmpty = false) : e.marked = e := by
  rw [marked, if_neg]
  rintro ⟨-, empty⟩
  simp [signed] at empty

/-! ## The canonical transaction as an envelope -/

/-- The signature of the oldest type as a bare parity, which its encoding has no place for. -/
def IsBareLegacy (e : Envelope) : Prop := e.type = .legacy ∧ e.signature.v = 0

instance (e : Envelope) : Decidable e.IsBareLegacy := inferInstanceAs (Decidable (_ ∧ _))

section CanonicalBody

variable {e : Envelope} {c : UInt64} {body : CanonicalBody}

theorem recipient_getD (needs : e.fields.type.needsRecipient = true) :
    some (e.recipient.getD Address.zero) = e.recipient := by
  obtain ⟨a, whom⟩ := Option.isSome_iff_exists.mp (e.recipient_isSome needs)
  rw [whom]
  rfl

/-- The parts of the body are those of the envelope. The chain itself may be missing from it. -/
theorem partsOf_of_canonicalBody (told : e.chainId = Word.ofUInt64 c)
    (fitted : e.canonicalBody c = .ok body) (sig : Signature) :
    partsOf ⟨e.nonce, e.gas, e.value, e.data, body, sig⟩ (some e.chainId)
      = (e.chainId, e.fields.withoutSidecar, e.recipient) := by
  unfold canonicalBody at fitted
  cases fields : e.fields with
  | legacy price =>
    rw [fields] at fitted
    obtain ⟨p, priced, same⟩ := bind_eq_ok.mp fitted
    cases same
    rw [eq_of_fee priced]
    cases e.marked.isReplayProtected <;>
      simp [partsOf, Fields.withoutSidecar, Fields.withSidecar?, told]
  | accessList price list =>
    rw [fields] at fitted
    obtain ⟨p, priced, same⟩ := bind_eq_ok.mp fitted
    cases same
    rw [eq_of_fee priced, told]
    rfl
  | dynamicFee caps list =>
    rw [fields] at fitted
    obtain ⟨fees, priced, same⟩ := bind_eq_ok.mp fitted
    cases same
    rw [eq_of_feePair priced, told]
    rfl
  | blob caps list blobFee hashes sidecar =>
    have whom := e.recipient_getD (by simp [fields, Fields.type, TxType.needsRecipient])
    rw [fields] at fitted
    obtain ⟨fees, priced, fitted⟩ := bind_eq_ok.mp fitted
    obtain ⟨cap, capped, same⟩ := bind_eq_ok.mp fitted
    cases same
    rw [eq_of_feePair priced, eq_of_fee capped, told, ← whom]
    rfl
  | setCode caps list auths =>
    have whom := e.recipient_getD (by simp [fields, Fields.type, TxType.needsRecipient])
    rw [fields] at fitted
    obtain ⟨fees, priced, same⟩ := bind_eq_ok.mp fitted
    cases same
    rw [eq_of_feePair priced, told, ← whom]
    rfl

theorem type_of_canonicalBody (told : e.chainId = Word.ofUInt64 c)
    (fitted : e.canonicalBody c = .ok body) (sig : Signature) :
    CanonicalTx.type ⟨e.nonce, e.gas, e.value, e.data, body, sig⟩ = e.type := by
  rw [← type_ofCanonical _ (some e.chainId), type, fields_ofCanonical,
    partsOf_of_canonicalBody told fitted sig]
  exact e.fields.type_withoutSidecar

/-- The chain is told where it is signed. -/
theorem legacy_of_canonicalBody (fitted : e.canonicalBody c = .ok body)
    (legacy : e.type = .legacy) :
    ∃ price, body = .legacy (if e.marked.isReplayProtected then some c else none) price
      e.recipient := by
  unfold canonicalBody at fitted
  cases fields : e.fields with
  | legacy price =>
    rw [fields] at fitted
    obtain ⟨p, -, same⟩ := bind_eq_ok.mp fitted
    cases same
    exact ⟨p, rfl⟩
  | _ => simp [type, fields, Fields.type] at legacy

end CanonicalBody

theorem storedSignature_of_typed {t : CanonicalTx} (typed : t.type ≠ .legacy) (chainId : Word) :
    storedSignature t chainId
      = ⟨Word.ofBool t.signature.parity, t.signature.r, t.signature.s⟩ := by
  obtain ⟨nonce, gas, value, data, body, sig⟩ := t
  cases body with
  | legacy => exact absurd rfl typed
  | _ => rfl

theorem storedV_chained (parity : Bool) (chainId : Word) :
    storedV (if parity then 1 else 0) chainId true
      = Word.ofBool parity + (35 + chainId * 2) := by
  rw [← storedV_typed parity chainId, ← BitVec.add_assoc]
  rfl

theorem ofUInt64_chainless (parity : Bool) :
    Word.ofUInt64 (27 + if parity then 1 else 0) = Word.ofBool parity + 27 := by
  cases parity <;> rfl

/-! ## The fallback -/

theorem yParity_of_chainless {e : Envelope} (chainless : e.IsChainlessLegacy) :
    e.yParity = .ok (e.signature.v = 28) := by
  obtain ⟨legacy, old⟩ := chainless
  have values : e.signature.v = 27 ∨ e.signature.v = 28 := by simpa [isChainless] using old
  have positive : e.signature.v ≠ 0 := by
    rcases values with v | v <;> rw [v] <;> decide
  have offset : e.parityOffset = 27 := by
    rw [parityOffset_of_legacy legacy positive]
    simp [isReplayProtected, old]
  unfold yParity
  rw [offset]
  rcases values with v | v <;> rw [v] <;> rfl

/-- Where the chain is not signed it has no part in the sender. -/
theorem sender_setChainId {e : Envelope} (chainless : e.IsChainlessLegacy) (chainId : Word) :
    (e.setChainId chainId).sender = e.sender := by
  have chainless' : (e.setChainId chainId).IsChainlessLegacy := chainless
  have parity : (e.setChainId chainId).yParity = e.yParity := by
    rw [yParity_of_chainless chainless, yParity_of_chainless chainless']
    rfl
  obtain ⟨legacy, old⟩ := chainless
  obtain ⟨legacy', old'⟩ := chainless'
  have unsigned : (e.setChainId chainId).unsignedItems = e.unsignedItems := by
    unfold unsignedItems
    cases fields : e.fields with
    | legacy price => simp [setChainId, fields, recipientItem_eq]
    | _ => simp [type, fields, Fields.type] at legacy
  have digest : (e.setChainId chainId).signingDigest = e.signingDigest := by
    simp [signingDigest, signingPreimage, signingItems_eq, isReplayProtected, legacy, legacy', old,
      old', unsigned]
  unfold sender
  rw [digest, parity]
  rfl

/-- The fallback is the chain only where the chain is not signed. -/
theorem sender_ofCanonical (t : CanonicalTx) (fallback : Option Word) :
    (ofCanonical t fallback).sender = (ofCanonical t none).sender := by
  obtain ⟨nonce, gas, value, data, body, sig⟩ := t
  cases body with
  | legacy told price recipient =>
    cases told with
    | some c => rfl
    | none =>
      have signature (fallback : Option Word) : (ofCanonical ⟨nonce, gas, value, data,
          .legacy none price recipient, sig⟩ fallback).signature
            = if sig.r = 1 ∧ sig.s = 1 then .empty
              else ⟨Word.ofUInt64 (27 + if sig.parity then 1 else 0), sig.r, sig.s⟩ := rfl
      by_cases ones : sig.r = 1 ∧ sig.s = 1
      · simp only [if_pos ones] at signature
        rw [sender_of_isEmpty (by rw [signature]; rfl), sender_of_isEmpty (by rw [signature]; rfl)]
      · simp only [if_neg ones] at signature
        have chainless : (ofCanonical ⟨nonce, gas, value, data, .legacy none price recipient, sig⟩
            none).IsChainlessLegacy := by
          refine ⟨rfl, ?_⟩
          rw [signature]
          cases sig.parity <;> rfl
        exact sender_setChainId chainless (fallback.getD 0)
  | _ => rfl

/-! ## What is converted -/

section Converted

variable {e : Envelope} {g : CanonicalTx} (converted : e.toCanonical = .ok g)
  (signed : e.signature.isEmpty = false)
  (unmarked : e.type = .legacy → ¬(e.signature.r = 1 ∧ e.signature.s = 1))

include converted signed unmarked

/-- What is stored for the signature of the canonical transaction is what was stored. -/
theorem storedSignature_of_toCanonical (chained : ¬e.IsBareLegacy) :
    storedSignature g e.chainId = e.signature := by
  obtain ⟨c, parity, body, told, known, fitted, rfl⟩ := toCanonical_eq_ok converted
  rw [marked_of_signed signed] at known ⊢
  have v := v_of_yParity known
  by_cases legacy : e.type = .legacy
  · have positive : e.signature.v ≠ 0 := fun zero => chained ⟨legacy, zero⟩
    have real := unmarked legacy
    obtain ⟨price, rfl⟩ := legacy_of_canonicalBody fitted legacy
    rw [parityOffset_of_legacy legacy positive] at v
    rw [marked_of_signed signed]
    simp only [storedSignature, if_neg real]
    cases replay : e.isReplayProtected with
    | true =>
      rw [replay, if_pos rfl] at v
      have kept : storedV (if parity then 1 else 0) e.chainId true = e.signature.v :=
        (storedV_chained parity e.chainId).trans v.symm
      simp [kept]
    | false =>
      rw [replay, if_neg (by decide)] at v
      have kept : Word.ofUInt64 (27 + if parity then 1 else 0) = e.signature.v :=
        (ofUInt64_chainless parity).trans v.symm
      simp [kept]
  · have typed : CanonicalTx.type ⟨e.nonce, e.gas, e.value, e.data, body,
        ⟨e.signature.r, e.signature.s, parity⟩⟩ ≠ .legacy := by
      rw [type_of_canonicalBody told fitted]
      exact legacy
    have kept : e.signature.v = Word.ofBool parity := by
      rw [v, parityOffset_of_typed legacy]
      exact BitVec.add_zero _
    rw [storedSignature_of_typed typed, ← kept]

/-- A signed envelope is that of its canonical transaction, which tells the chain but where `v` is
from before chains were told apart. -/
theorem ofCanonical_of_toCanonical (chained : ¬e.IsBareLegacy) :
    ofCanonical g (some e.chainId) = e.withoutSidecar := by
  have stored := storedSignature_of_toCanonical converted signed unmarked chained
  obtain ⟨c, parity, body, told, known, fitted, rfl⟩ := toCanonical_eq_ok converted
  exact ofCanonical_eq_withoutSidecar (partsOf_of_canonicalBody told fitted _) stored

theorem not_isMarked_of_toCanonical : ¬g.IsMarked := by
  obtain ⟨c, parity, body, told, -, fitted, rfl⟩ := toCanonical_eq_ok converted
  rw [marked_of_signed signed]
  rintro ⟨legacy, ones⟩
  rw [type_of_canonicalBody told fitted] at legacy
  exact unmarked legacy ones

/-- The conversion writes the items that the envelope writes, behind the same code. -/
theorem items_of_toCanonical (chained : ¬e.IsBareLegacy) :
    g.type = e.type ∧ g.items = e.signedItems := by
  have same := ofCanonical_of_toCanonical converted signed unmarked chained
  have real := not_isMarked_of_toCanonical converted signed unmarked
  constructor
  · rw [← type_ofCanonical g (some e.chainId), same, type_withoutSidecar]
  · rw [← signedItems_ofCanonical (fun legacy ones => real ⟨legacy, ones⟩) (some e.chainId), same,
      signedItems_withoutSidecar]

/-- The wire form is read as what the envelope was converted to. -/
theorem ofWire_wire_of_toCanonical (chained : ¬e.IsBareLegacy)
    (sized : e.wire.length < UInt64.size) :
    ofWire e.wire = .ok (ofCanonical g none) := by
  obtain ⟨type, items⟩ := items_of_toCanonical converted signed unmarked chained
  unfold wire at sized ⊢
  cases carried : e.fields.sidecar? with
  | none =>
    rw [carried] at sized
    have bytes : e.encoded = g.canonicalBytes := by
      rw [encoded, CanonicalTx.canonicalBytes, type, items]
    rw [bytes] at sized ⊢
    have read := CanonicalTx.read?_canonicalBytes (CanonicalTx.fits_of_encodeAs sized) []
    rw [List.append_nil] at read
    exact ofWire_eq_ok_iff.mpr ⟨g.withoutBlobs, read, (ofCanonical_withoutBlobs g none).symm⟩
  | some sidecar =>
    rw [carried] at sized
    have blob : g.type = .blob := type.trans (Fields.type_of_sidecar carried)
    have bytes : encodeAs .blob (.ofList e.signedItems :: sidecar.items)
        = (g.withBlobs ⟨false, sidecar⟩).encoded := by
      simp [CanonicalTx.encoded, CanonicalTx.blobs?_withBlobs blob, items]
    dsimp only at sized ⊢
    rw [bytes] at sized ⊢
    have read := CanonicalTx.read?_encoded sized []
    rw [List.append_nil] at read
    exact ofWire_eq_ok_iff.mpr ⟨g.withBlobs ⟨false, sidecar⟩, read,
      (ofCanonical_withBlobs g none _).symm⟩

end Converted

/-- No transaction has the encoding of a bare parity on the oldest type. -/
theorem not_accepted_of_bareLegacy {e read : Envelope} (bare : e.IsBareLegacy)
    (sized : e.wire.length < UInt64.size) : ofWire e.wire ≠ .ok read := by
  obtain ⟨legacy, zero⟩ := bare
  intro accepted
  have wire : e.wire = e.encoded := by
    unfold Envelope.wire
    cases carried : e.fields.sidecar? with
    | none => rfl
    | some sidecar =>
      have blob : e.type = .blob := Fields.type_of_sidecar carried
      simp [blob] at legacy
  rw [wire] at sized accepted
  obtain ⟨t, found, -⟩ := ofWire_eq_ok_iff.mp accepted
  have canonical : canonicalPart e.encoded = e.encoded := by
    have fits := CanonicalTx.fits_of_encodeAs sized
    rw [encoded, legacy]
    exact canonicalPart_legacy fits
  have part := canonicalPart_of_read? found
  rw [canonical, ← encoded_ofCanonical_written t] at part
  obtain ⟨content, signature, -⟩ := (encoded_inj sized).mp part
  have type : t.type = .legacy := by
    rw [← type_ofCanonical t none, ← legacy]
    exact content.type.symm
  apply CanonicalTx.v_writtenSignature_ne_zero type
  rw [← zero, signature]
  rfl

/-- The wire form of a signed envelope that has a canonical transaction is accepted unless its
signature is a bare parity on the oldest type. Then it is read as that transaction, and has the
sender of the envelope. -/
theorem wire_agrees_with_toCanonical {e : Envelope} {g : CanonicalTx}
    (converted : e.toCanonical = .ok g) (signed : e.signature.isEmpty = false)
    (unmarked : e.type = .legacy → ¬(e.signature.r = 1 ∧ e.signature.s = 1))
    (sized : e.wire.length < UInt64.size) :
    ((∃ read, ofWire e.wire = .ok read) ↔ ¬e.IsBareLegacy) ∧
    (¬e.IsBareLegacy →
      ofWire e.wire = .ok (ofCanonical g none) ∧ g.canonicalBytes = e.encoded ∧
      (ofCanonical g none).sender = e.sender) := by
  refine ⟨⟨?_, ?_⟩, ?_⟩
  · rintro ⟨read, accepted⟩ bare
    exact not_accepted_of_bareLegacy bare sized accepted
  · intro chained
    exact ⟨_, ofWire_wire_of_toCanonical converted signed unmarked chained sized⟩
  · intro chained
    obtain ⟨type, items⟩ := items_of_toCanonical converted signed unmarked chained
    refine ⟨ofWire_wire_of_toCanonical converted signed unmarked chained sized, ?_, ?_⟩
    · rw [CanonicalTx.canonicalBytes, encoded, type, items]
    · rw [← sender_ofCanonical g (some e.chainId),
        ofCanonical_of_toCanonical converted signed unmarked chained, sender_withoutSidecar]

/-- A signature of the oldest type that tells a parity and no chain. -/
def bareSample : Envelope := (new .legacy 1).setSignature ⟨0, 1, 2⟩

/-- It is converted and has a sender, and its wire form is refused. -/
theorem wire_agrees_with_toCanonical_fails_bareSample :
    bareSample.toCanonical
        = .ok ⟨0, 0, 0, [], .legacy (some 1) 0 none, ⟨1, 2, false⟩⟩ ∧
      bareSample.signature.isEmpty = false ∧
      ¬(bareSample.signature.r = 1 ∧ bareSample.signature.s = 1) ∧
      bareSample.wire.length < UInt64.size ∧
      bareSample.sender = .ok (FixedBytes.ofNat 20 0xa422bf02941d09397d9b0b06cc10caafe6c3dc67) ∧
      ∀ read, ofWire bareSample.wire ≠ .ok read := by
  have sized : bareSample.wire.length < UInt64.size := by decide +kernel
  refine ⟨rfl, by decide, by decide, sized, sender_eq_ok_iff.mpr (by decide +kernel), ?_⟩
  intro read
  exact not_accepted_of_bareLegacy ⟨rfl, rfl⟩ sized

/-- From before chains were told apart: the conversion tells no chain, and the wire neither. -/
def earlySample : Envelope := (new .legacy 5).setSignature ⟨28, 1, 2⟩

theorem wire_agrees_with_toCanonical_earlySample :
    earlySample.toCanonical
        = .ok ⟨0, 0, 0, [], .legacy none 0 none, ⟨1, 2, true⟩⟩ ∧
      earlySample.signature.isEmpty = false ∧
      ¬(earlySample.signature.r = 1 ∧ earlySample.signature.s = 1) ∧
      earlySample.wire.length < UInt64.size ∧ ¬earlySample.IsBareLegacy ∧
      ofWire earlySample.wire = .ok ((new .legacy 0).setSignature ⟨28, 1, 2⟩) := by
  have sized : earlySample.wire.length < UInt64.size := by decide +kernel
  have chained : ¬earlySample.IsBareLegacy := by decide
  refine ⟨rfl, by decide, by decide, sized, chained, ?_⟩
  exact ((wire_agrees_with_toCanonical rfl (by decide) (fun _ => by decide) sized).2 chained).1

end Envelope

end TxCourier
