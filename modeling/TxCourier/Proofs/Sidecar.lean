import TxCourier.Proofs.Signing

/-! # Without the blobs

The blobs that travel beside an envelope have no part in what is signed, hashed or encoded, so an
envelope may be read without them. -/
namespace TxCourier

def Fields.withoutSidecar (fields : Fields) : Fields := (fields.withSidecar? none).getD fields

@[simp] theorem Fields.type_withoutSidecar (fields : Fields) :
    fields.withoutSidecar.type = fields.type := by
  cases fields <;> rfl

theorem Fields.type_of_sidecar {fields : Fields} {sidecar : Sidecar}
    (carried : fields.sidecar? = some sidecar) : fields.type = .blob := by
  cases fields with
  | blob => rfl
  | _ => cases carried

attribute [ext] Envelope

namespace Envelope

/-- The envelope without the blobs that travel beside it. -/
def withoutSidecar (e : Envelope) : Envelope := (e.setSidecar? none).getD e

theorem withoutSidecar_eq (e : Envelope) :
    e.withoutSidecar = e.setFields e.fields.withoutSidecar := by
  have same : e = e.setFields e.fields := by
    apply Envelope.ext <;> simp [setFields, recipient_eq]
  unfold withoutSidecar setSidecar? changeFields? Fields.withoutSidecar
  cases e.fields.withSidecar? none with
  | none => exact same
  | some fields => rfl

@[simp] theorem signature_withoutSidecar (e : Envelope) :
    e.withoutSidecar.signature = e.signature := by
  rw [withoutSidecar_eq]
  rfl

@[simp] theorem chainId_withoutSidecar (e : Envelope) : e.withoutSidecar.chainId = e.chainId := by
  rw [withoutSidecar_eq]
  rfl

@[simp] theorem fields_withoutSidecar (e : Envelope) :
    e.withoutSidecar.fields = e.fields.withoutSidecar := by
  rw [withoutSidecar_eq]
  rfl

@[simp] theorem type_withoutSidecar (e : Envelope) : e.withoutSidecar.type = e.type := by
  rw [type, fields_withoutSidecar, Fields.type_withoutSidecar]
  rfl

@[simp] theorem recipient_withoutSidecar (e : Envelope) :
    e.withoutSidecar.recipient = e.recipient := by
  rw [withoutSidecar_eq]
  change e.fields.withoutSidecar.type.recipient e.recipient = e.recipient
  rw [Fields.type_withoutSidecar]
  exact e.recipient_eq

@[simp] theorem unsignedItems_withoutSidecar (e : Envelope) :
    e.withoutSidecar.unsignedItems = e.unsignedItems := by
  unfold unsignedItems
  simp only [recipientItem_eq, fields_withoutSidecar, recipient_withoutSidecar,
    chainId_withoutSidecar]
  rw [withoutSidecar_eq]
  cases e.fields <;> rfl

@[simp] theorem signedItems_withoutSidecar (e : Envelope) :
    e.withoutSidecar.signedItems = e.signedItems := by
  simp [signedItems]

@[simp] theorem encoded_withoutSidecar (e : Envelope) : e.withoutSidecar.encoded = e.encoded := by
  simp [encoded]

@[simp] theorem signingDigest_withoutSidecar (e : Envelope) :
    e.withoutSidecar.signingDigest = e.signingDigest := by
  have items : e.withoutSidecar.signingItems = e.signingItems := by
    simp [signingItems_eq, isReplayProtected]
  simp [signingDigest, signingPreimage, items]

theorem sender_withoutSidecar (e : Envelope) : e.withoutSidecar.sender = e.sender := by
  simp [sender, yParity, parityOffset]

end Envelope

end TxCourier
