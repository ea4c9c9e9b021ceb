import TxCourier.Proofs.SignedContent
import TxCourier.Proofs.StrictCanonical
import TxCourier.Proofs.WireRoundTrip

/-! # Accepted bytes

Bytes that are accepted as a transaction have a canonical part, and the envelope that is read from
them is encoded as that part. Only the marker of unsigned transactions is taken away in between.
Nothing is assumed about the bytes, and nothing is said about those that are refused. -/
namespace TxCourier

open Rlp

namespace CanonicalTx

/-- Of the oldest type and with both scalars one, as an unsigned transaction is marked. -/
def IsMarked (t : CanonicalTx) : Prop :=
  t.type = .legacy ∧ t.signature.r = 1 ∧ t.signature.s = 1

instance (t : CanonicalTx) : Decidable t.IsMarked := inferInstanceAs (Decidable (_ ∧ _))

/-- The signature as it is written. -/
def writtenSignature (t : CanonicalTx) : RawSignature :=
  ⟨BitVec.ofNat 256 t.v, t.signature.r, t.signature.s⟩

theorem toNat_writtenSignature (t : CanonicalTx) : t.writtenSignature.v.toNat = t.v := by
  have small := t.v_lt
  rw [writtenSignature, BitVec.toNat_ofNat]
  exact Nat.mod_eq_of_lt (Nat.lt_trans small (by decide))

theorem items_writtenSignature (t : CanonicalTx) :
    t.writtenSignature.items
      = [.ofNat t.v, .ofWord t.signature.r, .ofWord t.signature.s] := by
  rw [RawSignature.items, Item.ofWord, toNat_writtenSignature]
  rfl

/-- The `v` of the oldest type is never zero. -/
theorem v_writtenSignature_ne_zero {t : CanonicalTx} (legacy : t.type = .legacy) :
    t.writtenSignature.v ≠ 0 := by
  intro zero
  have none_left : 0 = t.v := by
    rw [← toNat_writtenSignature, zero]
    rfl
  obtain ⟨nonce, gas, amount, data, body, sig⟩ := t
  cases body with
  | legacy told => cases told <;> simp only [v] at none_left <;> omega
  | _ => cases legacy

end CanonicalTx

namespace Envelope

/-- The list that stands first in an encoded list, if a list does. -/
def innerList? (b : Bytes) : Option Item :=
  match (Item.read? b).bind fun found => found.1.items? with
  | some (.list fields :: _) => some (.list fields)
  | _ => none

/-- The bytes without the code of the oldest type in front, and with the list of fields alone where
a list stands first behind the code of blobs. All other bytes are canonical as they are. -/
def canonicalPart : Bytes → Bytes
  | [] => []
  | code :: list =>
    if code = TxType.legacy.code then list
    else if code = TxType.blob.code then
      match innerList? list with
      | some fields => code :: fields.encode
      | none => code :: list
    else code :: list

/-! ## The canonical part of what is read -/

theorem canonicalPart_legacy {items : List Item} (fits : (Item.ofList items).Fits) :
    canonicalPart (Item.ofList items).encode = (Item.ofList items).encode := by
  obtain ⟨x, tail, bytes, large⟩ := Item.encode_list_eq_cons fits
  have first : (Item.ofList items).encode = x :: tail := bytes
  have not_legacy : x ≠ TxType.legacy.code := by
    rintro rfl
    exact large (by decide)
  have not_blob : x ≠ TxType.blob.code := by
    rintro rfl
    exact large (by decide)
  rw [first]
  simp [canonicalPart, not_legacy, not_blob]

theorem items_of_encode {items : List Item} (fits : (Item.ofList items).Fits) :
    (Item.read? (Item.ofList items).encode).bind (fun found => found.1.items?) = some items := by
  have read := Item.read?_encode fits []
  rw [List.append_nil] at read
  rw [read, Option.bind_some, Item.items?_ofList fits]

/-- With a list in front, that list is what is canonical. -/
theorem canonicalPart_beside {fields rest : List Item}
    (fits : (Item.ofList (.ofList fields :: rest)).Fits) :
    canonicalPart (encodeAs .blob (.ofList fields :: rest)) = encodeAs .blob fields := by
  have inner : innerList? (Item.ofList (.ofList fields :: rest)).encode
      = some (.ofList fields) := by
    rw [innerList?, items_of_encode fits]
    rfl
  simp [canonicalPart, encodeAs, TxType.isTyped, TxType.code, inner]

theorem canonicalPart_alone {first : Bytes} {rest : List Item}
    (fits : (Item.ofList (.bytes first :: rest)).Fits) :
    canonicalPart (encodeAs .blob (.bytes first :: rest))
      = encodeAs .blob (.bytes first :: rest) := by
  have inner : innerList? (Item.ofList (.bytes first :: rest)).encode = none := by
    rw [innerList?, items_of_encode fits]
  simp [canonicalPart, encodeAs, TxType.isTyped, TxType.code, inner]

theorem canonicalPart_encoded {t : CanonicalTx} (fits : (Item.ofList t.outerItems).Fits) :
    canonicalPart t.encoded = t.canonicalBytes := by
  rw [CanonicalTx.encoded_eq, CanonicalTx.canonicalBytes]
  cases carried : t.blobs? with
  | some blobs =>
    simp only [CanonicalTx.outerItems, carried, List.cons_append] at fits ⊢
    rw [CanonicalTx.type_of_blobs? carried]
    exact canonicalPart_beside fits
  | none =>
    simp only [CanonicalTx.outerItems, carried] at fits ⊢
    obtain ⟨nonce, gas, value, data, body, sig⟩ := t
    cases body with
    | legacy => exact canonicalPart_legacy fits
    | blob => exact canonicalPart_alone fits
    | _ => rfl

theorem canonicalPart_of_read? {b : Bytes} {t : CanonicalTx}
    (found : CanonicalTx.read? b = some (t, [])) : canonicalPart b = t.canonicalBytes := by
  obtain ⟨fits, whole⟩ := CanonicalTx.eq_of_read? found
  rw [List.append_nil] at whole
  rcases whole with rfl | ⟨legacy, rfl⟩
  · exact canonicalPart_encoded fits
  · have plain : t.blobs? = none := by
      cases carried : t.blobs? with
      | none => rfl
      | some blobs => simp [CanonicalTx.type_of_blobs? carried] at legacy
    simp [canonicalPart, legacy, CanonicalTx.encoded, plain]

/-! ## The envelope that is read -/

theorem ofWire_eq_ok_iff {b : Bytes} {e : Envelope} :
    ofWire b = .ok e ↔ ∃ t, CanonicalTx.read? b = some (t, []) ∧ e = ofCanonical t none := by
  constructor
  · intro accepted
    unfold ofWire at accepted
    split at accepted
    · cases accepted
    · rename_i t found
      cases accepted
      exact ⟨t, found, rfl⟩
    · cases accepted
  · rintro ⟨t, found, rfl⟩
    simp [ofWire, found]

theorem ofCanonical_withoutBlobs (t : CanonicalTx) (fallback : Option Word) :
    ofCanonical t.withoutBlobs fallback = ofCanonical t fallback := by
  obtain ⟨nonce, gas, value, data, body, sig⟩ := t
  cases body <;> rfl

theorem wire_ofCanonical (t : CanonicalTx) (fallback : Option Word) :
    (ofCanonical t fallback).wire = (ofCanonical t fallback).encoded := by
  have bare : (ofCanonical t fallback).fields.sidecar? = none := by
    rw [fields_ofCanonical]
    unfold partsOf
    cases t.body <;> rfl
  rw [wire, bare]

/-- The bytes of an envelope that is read, with the signature as it was written. -/
theorem encoded_ofCanonical_written (t : CanonicalTx) :
    ((ofCanonical t none).setSignature t.writtenSignature).encoded = t.canonicalBytes := by
  have type : ((ofCanonical t none).setSignature t.writtenSignature).type = t.type :=
    type_ofCanonical t none
  rw [encoded, type, CanonicalTx.canonicalBytes, ← unsignedItems_ofCanonical t none,
    ← t.items_writtenSignature]
  rfl

theorem storedSignature_eq {t : CanonicalTx} (unmarked : ¬t.IsMarked) (fallback : Option Word) :
    storedSignature t (partsOf t fallback).1 = t.writtenSignature := by
  apply RawSignature.items_inj.mp
  rw [items_storedSignature (fun legacy ones => unmarked ⟨legacy, ones⟩),
    t.items_writtenSignature]

/-- Both scalars one are taken for the marker, and nothing else is. -/
theorem isMarked_iff {t : CanonicalTx} :
    t.IsMarked ↔ (ofCanonical t none).type = .legacy ∧ (ofCanonical t none).signature = .empty := by
  rw [type_ofCanonical, signature_ofCanonical]
  constructor
  · rintro ⟨legacy, ones⟩
    refine ⟨legacy, ?_⟩
    obtain ⟨nonce, gas, value, data, body, sig⟩ := t
    cases body with
    | legacy => exact if_pos ones
    | _ => cases legacy
  · rintro ⟨legacy, empty⟩
    refine Decidable.byContradiction fun unmarked => ?_
    rw [storedSignature_eq unmarked] at empty
    exact CanonicalTx.v_writtenSignature_ne_zero legacy (congrArg RawSignature.v empty)

theorem encoded_ofCanonical {t : CanonicalTx} (unmarked : ¬t.IsMarked) :
    (ofCanonical t none).encoded = t.canonicalBytes := by
  rw [← encoded_ofCanonical_written, ← storedSignature_eq unmarked none]
  rfl

/-- The canonical part is read as the same envelope. -/
theorem ofWire_canonicalPart {b : Bytes} {e : Envelope} (accepted : ofWire b = .ok e) :
    ofWire (canonicalPart b) = .ok e := by
  obtain ⟨t, found, rfl⟩ := ofWire_eq_ok_iff.mp accepted
  obtain ⟨fits, -⟩ := CanonicalTx.eq_of_read? found
  have read := CanonicalTx.read?_canonicalBytes (CanonicalTx.fits_items fits) []
  rw [List.append_nil] at read
  rw [canonicalPart_of_read? found]
  exact ofWire_eq_ok_iff.mpr ⟨t.withoutBlobs, read, (ofCanonical_withoutBlobs t none).symm⟩

/-- No bytes can be put behind a transaction. -/
theorem eq_of_prefix {b b' : Bytes} {e e' : Envelope} (accepted : ofWire b = .ok e)
    (accepted' : ofWire b' = .ok e') (front : b <+: b') : b' = b := by
  obtain ⟨more, rfl⟩ := front
  obtain ⟨t, found, -⟩ := ofWire_eq_ok_iff.mp accepted
  obtain ⟨t', found', -⟩ := ofWire_eq_ok_iff.mp accepted'
  rw [CanonicalTx.read?_append found more] at found'
  cases found'
  exact List.append_nil b

/-- Accepted bytes have the canonical part that their envelope is encoded as, and so the envelope
tells the canonical part and the canonical part the envelope. Where the marker was taken away the
envelope is encoded with zeros in its place. No accepted bytes begin with other accepted bytes. -/
theorem encoded_of_ofWire {b : Bytes} {e : Envelope} (accepted : ofWire b = .ok e) :
    ∃ t, CanonicalTx.read? b = some (t, []) ∧ e.wire = e.encoded ∧
      (¬t.IsMarked →
        e.encoded = canonicalPart b ∧ ofWire e.wire = .ok e ∧
        e.hash = keccak256 (canonicalPart b) ∧
        ∀ b' e', ofWire b' = .ok e' → (e' = e ↔ canonicalPart b' = canonicalPart b)) ∧
      (t.IsMarked →
        e.signature = .empty ∧
        (e.setSignature ⟨BitVec.ofNat 256 t.v, 1, 1⟩).encoded = canonicalPart b) ∧
      ∀ b' e', ofWire b' = .ok e' → b <+: b' → b' = b := by
  obtain ⟨t, found, rfl⟩ := ofWire_eq_ok_iff.mp accepted
  have part := canonicalPart_of_read? found
  have wire := wire_ofCanonical t none
  have again := ofWire_canonicalPart accepted
  refine ⟨t, found, wire, ?_, ?_, fun _ _ => eq_of_prefix accepted⟩
  · intro unmarked
    have encoded : (ofCanonical t none).encoded = canonicalPart b := by
      rw [encoded_ofCanonical unmarked, part]
    refine ⟨encoded, by rw [wire, encoded, again], by rw [hash, encoded], ?_⟩
    intro b' e' accepted'
    constructor
    · rintro rfl
      obtain ⟨t', found', same⟩ := ofWire_eq_ok_iff.mp accepted'
      have unmarked' : ¬t'.IsMarked := by
        rw [isMarked_iff, ← same, ← isMarked_iff]
        exact unmarked
      rw [← encoded, same, encoded_ofCanonical unmarked', canonicalPart_of_read? found']
    · intro same
      have again' := ofWire_canonicalPart accepted'
      rw [same, again] at again'
      exact (Except.ok.inj again').symm
  · intro marked
    obtain ⟨legacy, r, s⟩ := marked
    refine ⟨(isMarked_iff.mp ⟨legacy, r, s⟩).2, ?_⟩
    rw [part, ← encoded_ofCanonical_written t, CanonicalTx.writtenSignature, r, s]

/-- A blob transaction with a commitment beside it and proofs about cells. -/
def travellingSample : CanonicalTx :=
  { nonce := 7, gas := 21000, value := 1, data := [0xca, 0xfe], signature := ⟨3, 4, true⟩,
    body := .blob 5 ⟨1, 200⟩ Address.zero [⟨Address.zero, [FixedBytes.replicate 32 7]⟩] 3
      [FixedBytes.replicate 32 1] (some ⟨true, ⟨[], [FixedBytes.replicate 48 9], []⟩⟩) }

theorem encoded_of_ofWire_travellingSample :
    ofWire travellingSample.encoded = .ok (ofCanonical travellingSample none) ∧
      canonicalPart travellingSample.encoded ≠ travellingSample.encoded ∧
      (ofCanonical travellingSample none).wire = canonicalPart travellingSample.encoded := by
  have sized : travellingSample.encoded.length = 187 := by decide +kernel
  have found := CanonicalTx.read?_encoded (show travellingSample.encoded.length < UInt64.size by
    rw [sized]; decide) []
  rw [List.append_nil] at found
  have accepted := ofWire_eq_ok_iff.mpr ⟨travellingSample, found, rfl⟩
  have part := canonicalPart_of_read? found
  refine ⟨accepted, ?_, ?_⟩
  · rw [part]
    decide +kernel
  · obtain ⟨t, same, wire, unmarked, -⟩ := encoded_of_ofWire accepted
    rw [found] at same
    cases same
    rw [wire]
    exact (unmarked (by decide)).1

end Envelope

end TxCourier
