import TxCourier.Envelope.Canonical
import TxCourier.Proofs.Rlp

/-! # Reading canonical transactions back

A canonical transaction is read back from its encoding, with or without blobs beside it and whatever
follows it. Nothing is said here about bytes that no transaction encodes. -/
namespace TxCourier

open Rlp

/-! ## Behind the code of a type -/

/-- The encoding of a list cannot be taken for a code. -/
theorem Rlp.Item.encode_list_eq_cons {b : Bytes} (bound : b.length < UInt64.size) :
    ∃ x tail, (Item.list b).encode = x :: tail ∧ ¬x ≤ 0x7f := by
  simp only [Item.encode, header]
  split
  · rename_i short
    refine ⟨_, _, rfl, ?_⟩
    have first : ((0xc0 : UInt8) + b.length.toUInt8).toNat = 192 + b.length :=
      toNat_offset (by simp; omega)
    rw [UInt8.le_iff_toNat_le, first]
    simp
    omega
  · rename_i long
    refine ⟨_, _, rfl, ?_⟩
    obtain ⟨lower, upper⟩ := length_of_length (by omega) bound
    have first : ((0xc0 : UInt8) + 55 + (Bytes.ofNat b.length).length.toUInt8).toNat
        = 247 + (Bytes.ofNat b.length).length := toNat_offset (by simp; omega)
    rw [UInt8.le_iff_toNat_le, first]
    simp
    omega

namespace CanonicalTx

theorem splitCode?_encodeAs {t : TxType} {items : List Item} (fits : (Item.ofList items).Fits)
    (rest : Bytes) :
    splitCode? (Envelope.encodeAs t items ++ rest)
      = some (t, (Item.ofList items).encode ++ rest) := by
  cases t with
  | legacy =>
    have bound : (encodeAll items).length < UInt64.size := fits
    obtain ⟨x, tail, bytes, large⟩ := Item.encode_list_eq_cons bound
    simp [Envelope.encodeAs, TxType.isTyped, Item.ofList, bytes, splitCode?, large]
  | accessList => rfl
  | dynamicFee => rfl
  | blob => rfl
  | setCode => rfl

/-! ## Lists of a type -/

theorem accessEntry?_item {entry : AccessEntry} (fits : entry.item.Fits) :
    accessEntry? entry.item = some entry := by
  have keys : (Item.ofList (entry.storageKeys.map Item.ofFixed)).listOf? (Item.fixed? 32)
      = some entry.storageKeys :=
    Item.listOf?_ofList (fits.of_mem (by simp)) fun key _ => Item.fixed?_ofFixed key
  unfold accessEntry?
  rw [AccessEntry.item, Item.items?_ofList fits]
  simp [keys]

theorem accessList?_item {list : AccessList} (fits : list.item.Fits) :
    accessList? list.item = some list :=
  Item.listOf?_ofList fits fun _ member =>
    accessEntry?_item (fits.of_mem (List.mem_map_of_mem member))

theorem authorization?_item {auth : Authorization} (fits : auth.item.Fits) :
    authorization? auth.item = some auth := by
  unfold authorization?
  rw [Authorization.item, Item.items?_ofList fits]
  simp

theorem authorizations?_items {auths : List Authorization}
    (fits : (Item.ofList (auths.map Authorization.item)).Fits) :
    (Item.ofList (auths.map Authorization.item)).listOf? authorization? = some auths :=
  Item.listOf?_ofList fits fun _ member =>
    authorization?_item (fits.of_mem (List.mem_map_of_mem member))

theorem fixedList?_items {n : Nat} {list : List (FixedBytes n)}
    (fits : (Item.ofList (list.map Item.ofFixed)).Fits) :
    (Item.ofList (list.map Item.ofFixed)).listOf? (Item.fixed? n) = some list :=
  Item.listOf?_ofList fits fun b _ => Item.fixed?_ofFixed b

/-! ## Fields -/

theorem splitV_chainless (parity : Bool) :
    splitV (27 + if parity then 1 else 0) = some (parity, none) := by
  cases parity <;> rfl

/-- From 35 on `v` tells both the parity and the chain. -/
theorem splitV_chained (chainId : UInt64) (parity : Bool) :
    splitV (35 + 2 * chainId.toNat + if parity then 1 else 0) = some (parity, some chainId) := by
  have bound : chainId.toNat < UInt64.size := chainId.toNat_lt
  cases parity with
  | false =>
    have half : (35 + 2 * chainId.toNat + 0 - 35) / 2 = chainId.toNat := by omega
    have even : (35 + 2 * chainId.toNat + 0 - 35) % 2 = 0 := by omega
    simp only [splitV, Bool.false_eq_true, if_false, half, even]
    rw [if_neg (by omega), if_neg (by omega), if_pos ⟨by omega, bound⟩]
    simp
  | true =>
    have half : (35 + 2 * chainId.toNat + 1 - 35) / 2 = chainId.toNat := by omega
    have odd : (35 + 2 * chainId.toNat + 1 - 35) % 2 = 1 := by omega
    simp only [splitV, if_true, half, odd]
    rw [if_neg (by omega), if_neg (by omega), if_pos ⟨by omega, bound⟩]
    simp

theorem feePair?_ofNat (fees : FeePair) :
    feePair? (.ofNat fees.tip.toNat) (.ofNat fees.cap.toNat) = some fees := by
  simp [feePair?]

theorem signature?_ofNat (sig : Signature) :
    signature? (.ofNat (if sig.parity then 1 else 0)) (.ofWord sig.r) (.ofWord sig.s)
      = some sig := by
  simp [signature?]

theorem v_lt (t : CanonicalTx) : t.v < Nat.pow 256 16 := by
  have room : Nat.pow 256 16 = 340282366920938463463374607431768211456 := by decide
  have bit : (if t.signature.parity then 1 else 0) ≤ 1 := by split <;> omega
  simp only [v]
  cases t.body with
  | legacy chainId =>
    cases chainId with
    | none => dsimp only; omega
    | some c =>
      have bound := c.toNat_lt
      dsimp only
      omega
  | _ => dsimp only; omega

theorem ofLegacyItems?_items {t : CanonicalTx} (legacy : t.type = .legacy) :
    ofLegacyItems? t.items = some t := by
  have small := Item.nat?_ofNat t.v_lt
  obtain ⟨nonce, gas, value, data, body, sig⟩ := t
  cases body with
  | legacy chainId price recipient =>
    have told : splitV (v ⟨nonce, gas, value, data, .legacy chainId price recipient, sig⟩)
        = some (sig.parity, chainId) := by
      cases chainId with
      | none => exact splitV_chainless sig.parity
      | some c => exact splitV_chained c sig.parity
    simp [items, ofLegacyItems?, small, told]
  | _ => cases legacy

/-- The fields of a transaction behind a code are read back, but for the blobs beside them. -/
theorem ofTypedItems?_items {t : CanonicalTx} (typed : t.type ≠ .legacy) (plain : t.blobs? = none)
    (fits : (Item.ofList t.items).Fits) : ofTypedItems? t.type t.items = some t := by
  have inner : ∀ i ∈ t.items, i.Fits := fun _ => fits.of_mem
  obtain ⟨nonce, gas, value, data, body, sig⟩ := t
  have signature := signature?_ofNat sig
  cases body with
  | legacy => exact absurd rfl typed
  | accessList chainId price recipient list =>
    have announced := accessList?_item (inner list.item (by simp [items]))
    simp [type, items, ofTypedItems?, v, announced, signature]
  | dynamicFee chainId fees recipient list =>
    have announced := accessList?_item (inner list.item (by simp [items]))
    simp [type, items, ofTypedItems?, v, announced, feePair?_ofNat, signature]
  | blob chainId fees recipient list cap hashes blobs =>
    have announced := accessList?_item (inner list.item (by simp [items]))
    have hashed := fixedList?_items (inner (.ofList (hashes.map .ofFixed)) (by simp [items]))
    have absent : blobs = none := plain
    simp [type, items, ofTypedItems?, v, announced, feePair?_ofNat, hashed, signature, absent]
  | setCode chainId fees recipient list auths =>
    have announced := accessList?_item (inner list.item (by simp [items]))
    have allowed := authorizations?_items
      (inner (.ofList (auths.map Authorization.item)) (by simp [items]))
    simp [type, items, ofTypedItems?, v, announced, feePair?_ofNat, allowed, signature]

/-- The fields of a transaction without blobs are read back as its type reads them. -/
theorem ofItems?_items {t : CanonicalTx} (plain : t.blobs? = none)
    (fits : (Item.ofList t.items).Fits) : ofItems? t.type t.items = some t := by
  by_cases legacy : t.type = .legacy
  · rw [legacy]
    exact ofLegacyItems?_items legacy
  · rw [← ofTypedItems?_items legacy plain fits]
    -- A chain stands first behind every code, and a chain is no list.
    obtain ⟨nonce, gas, value, data, body, sig⟩ := t
    cases body with
    | legacy => exact absurd rfl legacy
    | _ => rfl

/-- Items behind the code of a type are read as that type reads them. -/
theorem read?_encodeAs {t : TxType} {items : List Item} {tx : CanonicalTx}
    (fits : (Item.ofList items).Fits) (reads : ofItems? t items = some tx) (rest : Bytes) :
    read? (Envelope.encodeAs t items ++ rest) = some (tx, rest) := by
  simp [read?, splitCode?_encodeAs fits, Item.read?_encode fits, Item.items?_ofList fits, reads]

theorem fits_of_encodeAs {t : TxType} {items : List Item}
    (bound : (Envelope.encodeAs t items).length < UInt64.size) : (Item.ofList items).Fits := by
  have inner := Item.length_payload_le (Item.ofList items)
  have outer : (Item.ofList items).encode.length ≤ (Envelope.encodeAs t items).length := by
    unfold Envelope.encodeAs
    split <;> simp
  unfold Item.Fits
  omega

/-! ## Blobs beside the fields -/

theorem sidecar?_items {sidecar : Sidecar} (fits : ∀ i ∈ sidecar.items, i.Fits) :
    sidecar? (.ofList (sidecar.blobs.map Item.ofFixed))
      (.ofList (sidecar.commitments.map Item.ofFixed)) (.ofList (sidecar.proofs.map Item.ofFixed))
        = some sidecar := by
  have blobs := fixedList?_items (fits (.ofList (sidecar.blobs.map Item.ofFixed))
    (by simp [Sidecar.items]))
  have commitments := fixedList?_items (fits (.ofList (sidecar.commitments.map Item.ofFixed))
    (by simp [Sidecar.items]))
  have proofs := fixedList?_items (fits (.ofList (sidecar.proofs.map Item.ofFixed))
    (by simp [Sidecar.items]))
  simp [sidecar?, blobs, commitments, proofs]

@[simp] theorem items_withBlobs (t : CanonicalTx) (blobs : TravellingBlobs) :
    (t.withBlobs blobs).items = t.items := by
  obtain ⟨nonce, gas, value, data, body, sig⟩ := t
  cases body <;> rfl

theorem blobs?_withBlobs {t : CanonicalTx} (blob : t.type = .blob) (blobs : TravellingBlobs) :
    (t.withBlobs blobs).blobs? = some blobs := by
  obtain ⟨nonce, gas, value, data, body, sig⟩ := t
  cases body with
  | blob => rfl
  | _ => cases blob

/-- What travels is read as the fields by themselves, with the blobs put back in their place. -/
theorem ofTravellingItems?_items {t : CanonicalTx} {blobs : TravellingBlobs}
    (carried : t.blobs? = some blobs)
    (fits : (Item.ofList (.ofList t.items :: (if blobs.provesCells then [.ofNat 1] else [])
      ++ blobs.sidecar.items)).Fits) :
    ofTravellingItems? (.ofList t.items :: (if blobs.provesCells then [.ofNat 1] else [])
      ++ blobs.sidecar.items) = some t := by
  have inner := fits.of_mem (i := .ofList t.items) (by simp)
  have fields := Item.items?_ofList inner
  have beside := sidecar?_items fun i (member : i ∈ blobs.sidecar.items) =>
    fits.of_mem (by simp [member])
  obtain ⟨nonce, gas, value, data, body, sig⟩ := t
  cases body with
  | blob chainId fees recipient list cap hashes carriage =>
    have same : carriage = some blobs := carried
    subst same
    have plain : ofTypedItems? .blob (items ⟨nonce, gas, value, data,
          .blob chainId fees recipient list cap hashes (some blobs), sig⟩)
        = some ⟨nonce, gas, value, data, .blob chainId fees recipient list cap hashes none, sig⟩ :=
      ofTypedItems?_items (t := ⟨nonce, gas, value, data,
        .blob chainId fees recipient list cap hashes none, sig⟩) (by simp [type]) rfl inner
    obtain ⟨provesCells, sidecar⟩ := blobs
    cases provesCells with
    | false => simp [ofTravellingItems?, Sidecar.items, fields, plain, beside, withBlobs]
    | true => simp [ofTravellingItems?, Sidecar.items, fields, plain, beside, withBlobs]
  | _ => cases carried

/-- A canonical transaction is read back from its encoding whatever follows it. -/
theorem read?_encoded {t : CanonicalTx} (bound : t.encoded.length < UInt64.size) (rest : Bytes) :
    read? (t.encoded ++ rest) = some (t, rest) := by
  unfold encoded at bound ⊢
  split at bound
  · rename_i plain
    have fits := fits_of_encodeAs bound
    exact read?_encodeAs fits (ofItems?_items plain fits) rest
  · rename_i blobs carried
    have fits := fits_of_encodeAs bound
    have reads := ofTravellingItems?_items carried fits
    exact read?_encodeAs fits (show ofItems? .blob _ = some t from reads) rest

end CanonicalTx

end TxCourier
