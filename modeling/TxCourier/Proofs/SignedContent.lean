import TxCourier.Proofs.Canonical
import TxCourier.Proofs.Sidecar

/-! # What the bytes of an envelope tell

The bytes that are signed tell every field of an envelope but its blobs, across all types, and so do
the bytes that are hashed. Encodings whose lengths have no room in a header are not considered: no
memory holds them. -/
namespace TxCourier

open Rlp

namespace Rlp.Item

/-- Equal items are read as one value. -/
theorem eq_of_reads {α : Type} {read? : Item → Option α} {i j : Item} {a b : α}
    (left : read? i = some a) (right : read? j = some b) (same : i = j) : a = b := by
  rw [same, right] at left
  exact (Option.some.inj left).symm

@[simp] theorem ofWord_inj {a b : Word} : ofWord a = ofWord b ↔ a = b :=
  ⟨eq_of_reads (word?_ofWord a) (word?_ofWord b), congrArg ofWord⟩

@[simp] theorem ofUInt64_inj {a b : UInt64} : ofUInt64 a = ofUInt64 b ↔ a = b :=
  ⟨eq_of_reads (uint64?_ofUInt64 a) (uint64?_ofUInt64 b), congrArg ofUInt64⟩

/-- No recipient is told from every address, the zero address included. -/
@[simp] theorem ofRecipient_inj {a b : Option Address} :
    ofRecipient a = ofRecipient b ↔ a = b :=
  ⟨eq_of_reads (recipient?_ofRecipient a) (recipient?_ofRecipient b), congrArg ofRecipient⟩

theorem ofList_map_inj {α : Type} {item : α → Item} {member? : Item → Option α} {a b : List α}
    (reads : ∀ x, (item x).Fits → member? (item x) = some x)
    (fits : (ofList (a.map item)).Fits) :
    ofList (a.map item) = ofList (b.map item) ↔ a = b := by
  constructor
  · intro same
    have left := listOf?_ofList fits fun x member =>
      reads x (fits.of_mem (List.mem_map_of_mem member))
    rw [same] at fits
    have right := listOf?_ofList fits fun x member =>
      reads x (fits.of_mem (List.mem_map_of_mem member))
    exact eq_of_reads left right same
  · rintro rfl
    rfl

end Rlp.Item

theorem RawSignature.items_inj {a b : RawSignature} : a.items = b.items ↔ a = b := by
  obtain ⟨v, r, s⟩ := a
  obtain ⟨v', r', s'⟩ := b
  simp [items]

namespace Envelope

/-- The bytes tell the code and the items. -/
theorem encodeAs_inj {t t' : TxType} {items items' : List Item}
    (sized : (encodeAs t items).length < UInt64.size) :
    encodeAs t items = encodeAs t' items' ↔ t = t' ∧ items = items' := by
  constructor
  · intro same
    have fits := CanonicalTx.fits_of_encodeAs sized
    have left := CanonicalTx.splitCode?_encodeAs (t := t) fits []
    rw [same] at sized left
    have fits' := CanonicalTx.fits_of_encodeAs sized
    rw [CanonicalTx.splitCode?_encodeAs fits' []] at left
    simp only [List.append_nil, Option.some.injEq, Prod.mk.injEq] at left
    obtain ⟨type, list⟩ := left
    refine ⟨type.symm, Item.ofList_injective fits ?_⟩
    have read := Item.read?_encode fits []
    rw [← list, Item.read?_encode fits' []] at read
    simpa using read.symm
  · rintro ⟨rfl, rfl⟩
    rfl

/-- Two envelopes of one type that order the same, whatever their chain, their signature and the
blobs beside them. -/
structure SameContent (a b : Envelope) : Prop where
  type : a.type = b.type
  nonce : a.nonce = b.nonce
  gas : a.gas = b.gas
  recipient : a.recipient = b.recipient
  value : a.value = b.value
  data : a.data = b.data
  fields : a.fields.withoutSidecar = b.fields.withoutSidecar

theorem sameContent_iff {a b : Envelope} :
    a.SameContent b ↔ a.nonce = b.nonce ∧ a.gas = b.gas ∧ a.recipient = b.recipient ∧
      a.value = b.value ∧ a.data = b.data ∧ a.fields.withoutSidecar = b.fields.withoutSidecar := by
  constructor
  · intro same
    exact ⟨same.nonce, same.gas, same.recipient, same.value, same.data, same.fields⟩
  · rintro ⟨nonce, gas, recipient, value, data, fields⟩
    refine ⟨?_, nonce, gas, recipient, value, data, fields⟩
    have type := congrArg Fields.type fields
    rw [Fields.type_withoutSidecar, Fields.type_withoutSidecar] at type
    exact type

/-- The items without a signature tell the fields, and the chain behind every code. -/
theorem unsignedItems_inj {a b : Envelope} (type : a.type = b.type)
    (fits : ∀ i ∈ a.unsignedItems, i.Fits) :
    a.unsignedItems = b.unsignedItems ↔
      a.SameContent b ∧ (a.type = .legacy ∨ a.chainId = b.chainId) := by
  rw [sameContent_iff]
  have listed (l l' : AccessList) (member : l.item ∈ a.unsignedItems) : l.item = l'.item ↔ l = l' :=
    Item.ofList_map_inj (fun _ => CanonicalTx.accessEntry?_item) (fits _ member)
  -- Of the pairs of types only the equal ones are left, and there item is compared with item.
  cases left : a.fields <;> cases right : b.fields <;>
    simp only [Envelope.type, left, right, Fields.type, reduceCtorEq] at type
  case legacy.legacy price price' =>
    simp [unsignedItems, recipientItem_eq, Envelope.type, left, right, Fields.type,
      Fields.withoutSidecar, Fields.withSidecar?]
    grind
  case accessList.accessList price l price' l' =>
    have announced := listed l l' (by simp [unsignedItems, left])
    simp [unsignedItems, recipientItem_eq, Envelope.type, left, right, Fields.type,
      Fields.withoutSidecar, Fields.withSidecar?, announced]
    grind
  case dynamicFee.dynamicFee fees l fees' l' =>
    have announced := listed l l' (by simp [unsignedItems, left])
    obtain ⟨tip, cap⟩ := fees
    obtain ⟨tip', cap'⟩ := fees'
    simp [unsignedItems, recipientItem_eq, Envelope.type, left, right, Fields.type,
      Fields.withoutSidecar, Fields.withSidecar?, announced]
    grind
  case blob.blob fees l blobFee hashes _ fees' l' blobFee' hashes' _ =>
    have announced := listed l l' (by simp [unsignedItems, left])
    have hashed : Item.ofList (hashes.map .ofFixed) = Item.ofList (hashes'.map .ofFixed)
        ↔ hashes = hashes' :=
      Item.ofList_map_inj (fun h _ => Item.fixed?_ofFixed h)
        (fits _ (by simp [unsignedItems, left]))
    obtain ⟨tip, cap⟩ := fees
    obtain ⟨tip', cap'⟩ := fees'
    simp [unsignedItems, recipientItem_eq, Envelope.type, left, right, Fields.type,
      Fields.withoutSidecar, Fields.withSidecar?, announced, hashed]
    grind
  case setCode.setCode fees l auths fees' l' auths' =>
    have announced := listed l l' (by simp [unsignedItems, left])
    have allowed : Item.ofList (auths.map Authorization.item)
          = Item.ofList (auths'.map Authorization.item) ↔ auths = auths' :=
      Item.ofList_map_inj (fun _ => CanonicalTx.authorization?_item)
        (fits _ (by simp [unsignedItems, left]))
    obtain ⟨tip, cap⟩ := fees
    obtain ⟨tip', cap'⟩ := fees'
    simp [unsignedItems, recipientItem_eq, Envelope.type, left, right, Fields.type,
      Fields.withoutSidecar, Fields.withSidecar?, announced, allowed]
    grind

theorem length_unsignedItems {a b : Envelope} (type : a.type = b.type) :
    a.unsignedItems.length = b.unsignedItems.length := by
  cases left : a.fields <;> cases right : b.fields <;>
    simp_all [Envelope.type, Fields.type, unsignedItems]

/-- All forms of one type begin with the same number of items. -/
theorem unsignedItems_append_inj {a b : Envelope} (type : a.type = b.type) {s t : List Item} :
    a.unsignedItems ++ s = b.unsignedItems ++ t ↔ a.unsignedItems = b.unsignedItems ∧ s = t := by
  constructor
  · intro same
    exact List.append_inj same (length_unsignedItems type)
  · rintro ⟨front, rfl⟩
    rw [front]

/-- On the oldest type the items of the chain are there or not, so that their number tells which. -/
theorem signingItems_inj {a b : Envelope} (type : a.type = b.type) :
    a.signingItems = b.signingItems ↔
      a.unsignedItems = b.unsignedItems ∧
      (a.type = .legacy → a.isReplayProtected = b.isReplayProtected ∧
        (a.isReplayProtected = true → a.chainId = b.chainId)) := by
  rw [signingItems_eq, signingItems_eq, ← type, unsignedItems_append_inj type]
  refine and_congr_right fun _ => ?_
  by_cases legacy : a.type = .legacy
  · cases left : a.isReplayProtected <;> cases right : b.isReplayProtected <;> simp [legacy]
  · simp [legacy]

/-- Equal bytes to sign come from envelopes that order the same and agree on whether the chain is
signed, and on the chain itself wherever it is. -/
theorem signingPreimage_inj {a b : Envelope} (sized : a.signingPreimage.length < UInt64.size) :
    a.signingPreimage = b.signingPreimage ↔
      a.SameContent b ∧ (a.type = .legacy → a.isReplayProtected = b.isReplayProtected) ∧
      (a.chainId = b.chainId ∨
        a.type = .legacy ∧ isChainless a.signature.v = true ∧
          isChainless b.signature.v = true) := by
  have fits := CanonicalTx.fits_of_encodeAs sized
  have inner : ∀ i ∈ a.unsignedItems, i.Fits := by
    intro i member
    exact fits.of_mem (by simp [signingItems_eq, member])
  rw [signingPreimage, signingPreimage, encodeAs_inj sized]
  constructor
  · rintro ⟨type, items⟩
    obtain ⟨front, replay⟩ := (signingItems_inj type).mp items
    obtain ⟨content, place⟩ := (unsignedItems_inj type inner).mp front
    refine ⟨content, fun legacy => (replay legacy).1, ?_⟩
    rcases place with legacy | chain
    · obtain ⟨agree, chain⟩ := replay legacy
      cases chained : a.isReplayProtected with
      | true => exact .inl (chain chained)
      | false =>
        rw [chained] at agree
        exact .inr ⟨legacy, by simpa [isReplayProtected] using chained,
          by simpa [isReplayProtected] using agree.symm⟩
    · exact .inl chain
  · rintro ⟨content, replay, chain⟩
    refine ⟨content.type, (signingItems_inj content.type).mpr ⟨?_, ?_⟩⟩
    · rw [unsignedItems_inj content.type inner]
      refine ⟨content, ?_⟩
      rcases chain with same | ⟨legacy, -⟩
      · exact .inr same
      · exact .inl legacy
    · intro legacy
      refine ⟨replay legacy, fun chained => ?_⟩
      rcases chain with same | ⟨-, chainless, -⟩
      · exact same
      · simp [isReplayProtected, chainless] at chained

/-- Equal encodings come from envelopes that order the same and carry the same signature, for any
signature whatever. -/
theorem encoded_inj {a b : Envelope} (sized : a.encoded.length < UInt64.size) :
    a.encoded = b.encoded ↔
      a.SameContent b ∧ a.signature = b.signature ∧ (a.type = .legacy ∨ a.chainId = b.chainId) := by
  have fits := CanonicalTx.fits_of_encodeAs sized
  have inner : ∀ i ∈ a.unsignedItems, i.Fits := by
    intro i member
    exact fits.of_mem (by simp [signedItems, member])
  rw [encoded, encoded, encodeAs_inj sized, signedItems, signedItems]
  constructor
  · rintro ⟨type, items⟩
    obtain ⟨front, signature⟩ := (unsignedItems_append_inj type).mp items
    obtain ⟨content, chain⟩ := (unsignedItems_inj type inner).mp front
    exact ⟨content, RawSignature.items_inj.mp signature, chain⟩
  · rintro ⟨content, signature, chain⟩
    have front := (unsignedItems_inj content.type inner).mpr ⟨content, chain⟩
    exact ⟨content.type, by rw [front, signature]⟩

/-- Behind every code the chain stands first. -/
theorem signedItems_of_typed {e : Envelope} (typed : e.type ≠ .legacy) :
    ∃ rest, e.signedItems = .ofWord e.chainId :: rest := by
  unfold signedItems unsignedItems
  cases fields : e.fields with
  | legacy => simp [type, fields, Fields.type] at typed
  | _ => exact ⟨_, rfl⟩

/-- Fields by themselves are not taken for fields with blobs beside them. -/
theorem encoded_ne_travelling {e : Envelope} (sized : e.encoded.length < UInt64.size)
    (fields : List Item) (rest : List Item) :
    e.encoded ≠ encodeAs .blob (.ofList fields :: rest) := by
  intro same
  obtain ⟨blob, items⟩ := (encodeAs_inj sized).mp same
  obtain ⟨_, front⟩ := signedItems_of_typed (e := e) (by simp [blob])
  rw [front] at items
  cases List.head_eq_of_cons_eq items

/-- The wire form tells the signature, with blobs beside the fields or without. -/
theorem signature_of_wire {a b : Envelope} (sized : a.wire.length < UInt64.size)
    (same : a.wire = b.wire) : a.type = b.type ∧ a.signature = b.signature := by
  have sized' : b.wire.length < UInt64.size := same ▸ sized
  unfold wire at sized sized' same
  cases left : a.fields.sidecar? <;> cases right : b.fields.sidecar? <;>
    simp only [left, right] at sized sized' same
  case none.none =>
    obtain ⟨content, signature, -⟩ := (encoded_inj sized).mp same
    exact ⟨content.type, signature⟩
  case none.some => exact absurd same (encoded_ne_travelling sized _ _)
  case some.none => exact absurd same.symm (encoded_ne_travelling sized' _ _)
  case some.some =>
    obtain ⟨-, items⟩ := (encodeAs_inj sized).mp same
    have fits := (CanonicalTx.fits_of_encodeAs sized).of_mem (i := .ofList a.signedItems) (by simp)
    have type : a.type = b.type :=
      (Fields.type_of_sidecar left).trans (Fields.type_of_sidecar right).symm
    have front := Item.ofList_injective fits (List.head_eq_of_cons_eq items)
    obtain ⟨-, signature⟩ := (unsignedItems_append_inj type).mp front
    exact ⟨type, RawSignature.items_inj.mp signature⟩

/-- What is signed, and what is hashed, determines the transaction up to the blobs beside it. The
chain is left open by what is signed on the oldest type with a `v` from before chains were told
apart, and by the encoding of the oldest type, where `v` alone tells it. -/
theorem bytes_determine_content (a b : Envelope) :
    (a.signingPreimage.length < UInt64.size →
      (a.signingPreimage = b.signingPreimage ↔
        a.SameContent b ∧ (a.type = .legacy → a.isReplayProtected = b.isReplayProtected) ∧
        (a.chainId = b.chainId ∨ a.type = .legacy ∧ isChainless a.signature.v = true ∧
          isChainless b.signature.v = true))) ∧
    (a.encoded.length < UInt64.size →
      (a.encoded = b.encoded ↔
        a.SameContent b ∧ a.signature = b.signature ∧
        (a.type = .legacy ∨ a.chainId = b.chainId))) :=
  ⟨signingPreimage_inj, encoded_inj⟩

/-- A creation and a call of the zero address are signed and encoded differently. -/
theorem bytes_determine_content_creation :
    (new .dynamicFee 1).signingPreimage.length < UInt64.size ∧
    (new .dynamicFee 1).encoded.length < UInt64.size ∧
    (new .dynamicFee 1).signingPreimage
      ≠ ((new .dynamicFee 1).setRecipient (some Address.zero)).signingPreimage ∧
    (new .dynamicFee 1).encoded
      ≠ ((new .dynamicFee 1).setRecipient (some Address.zero)).encoded := by
  have apart : ¬(new .dynamicFee 1).SameContent
      ((new .dynamicFee 1).setRecipient (some Address.zero)) := by
    intro same
    cases same.recipient
  have signed : (new .dynamicFee 1).signingPreimage.length < UInt64.size := by decide +kernel
  have encoded : (new .dynamicFee 1).encoded.length < UInt64.size := by decide +kernel
  refine ⟨signed, encoded, ?_, ?_⟩
  · intro same
    exact apart (((bytes_determine_content _ _).1 signed).mp same).1
  · intro same
    exact apart (((bytes_determine_content _ _).2 encoded).mp same).1

end Envelope

end TxCourier
