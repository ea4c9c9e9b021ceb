import TxCourier.Envelope.Basic
import TxCourier.Digest.Keccak
import TxCourier.Rlp

/-! # What is signed, hashed and sent

A transaction is the list of its fields in the order of its type, with the code of the type in
front on all but the oldest. What is signed leaves out the signature; the oldest type then appends
its chain, unless `v` is one of the two values that were in use before chains were told apart.
Blobs travel beside the list of fields and belong to neither. -/
namespace TxCourier

open Rlp

namespace AccessEntry

def item (entry : AccessEntry) : Item :=
  .ofList [.ofFixed entry.address, .ofList (entry.storageKeys.map Item.ofFixed)]

end AccessEntry

namespace Authorization

def item (auth : Authorization) : Item :=
  .ofList [.ofWord auth.chainId, .ofFixed auth.address, .ofUInt64 auth.nonce,
    .ofNat auth.yParity.toNat, .ofWord auth.r, .ofWord auth.s]

end Authorization

namespace Sidecar

/-- The three lists of a sidecar. -/
def items (sidecar : Sidecar) : List Item :=
  [.ofList (sidecar.blobs.map Item.ofFixed), .ofList (sidecar.commitments.map Item.ofFixed),
    .ofList (sidecar.proofs.map Item.ofFixed)]

end Sidecar

def RawSignature.items (sig : RawSignature) : List Item :=
  [.ofWord sig.v, .ofWord sig.r, .ofWord sig.s]

def AccessList.item (list : AccessList) : Item := .ofList (list.map AccessEntry.item)

namespace Envelope

/-- The values of `v` that say nothing about the chain. -/
def isChainless (v : Word) : Bool := v = 27 ∨ v = 28

/-- Whether the chain belongs to what is signed on an envelope of the oldest type. -/
def isReplayProtected (e : Envelope) : Bool := !isChainless e.signature.v

/-- The recipient as it is written. Where one is needed the zero address would be written for none,
and so the two could not be told apart there. -/
def recipientItem (e : Envelope) : Item :=
  if e.type.needsRecipient then .ofFixed (e.recipient.getD Address.zero)
  else .ofRecipient e.recipient

/-- As the type always has a recipient where it needs one, the recipient is written as it is. -/
theorem recipientItem_eq (e : Envelope) : e.recipientItem = .ofRecipient e.recipient := by
  unfold recipientItem
  split
  · rename_i needs
    obtain ⟨a, some⟩ := Option.isSome_iff_exists.mp (e.recipient_isSome needs)
    rw [some]
    rfl
  · rfl

/-- The fields that every form has, in the order of the type. -/
def unsignedItems (e : Envelope) : List Item :=
  let call : List Item := [e.recipientItem, .ofWord e.value, .bytes e.data]
  let place : List Item := [.ofWord e.chainId, .ofUInt64 e.nonce]
  let capped (fees : FeeCaps) (list : AccessList) : List Item :=
    place ++ [.ofWord fees.tip, .ofWord fees.cap, .ofUInt64 e.gas] ++ call ++ [list.item]
  match e.fields with
  | .legacy price => [.ofUInt64 e.nonce, .ofWord price, .ofUInt64 e.gas] ++ call
  | .accessList price list => place ++ [.ofWord price, .ofUInt64 e.gas] ++ call ++ [list.item]
  | .dynamicFee fees list => capped fees list
  | .blob fees list cap hashes _ =>
    capped fees list ++ [.ofWord cap, .ofList (hashes.map Item.ofFixed)]
  | .setCode fees list auths => capped fees list ++ [.ofList (auths.map Authorization.item)]

def signingItems (e : Envelope) : List Item :=
  match e.fields with
  | .legacy _ =>
    if e.isReplayProtected then e.unsignedItems ++ [.ofWord e.chainId, .ofNat 0, .ofNat 0]
    else e.unsignedItems
  | _ => e.unsignedItems

def signedItems (e : Envelope) : List Item := e.unsignedItems ++ e.signature.items

/-- The list of some items behind the code of a type. -/
def encodeAs (t : TxType) (items : List Item) : Bytes :=
  if t.isTyped then t.code :: (Item.ofList items).encode else (Item.ofList items).encode

/-- The bytes whose digest is signed. -/
def signingPreimage (e : Envelope) : Bytes := encodeAs e.type e.signingItems

def signingDigest (e : Envelope) : Hash := keccak256 e.signingPreimage

/-- The canonical encoding with the signature. -/
def encoded (e : Envelope) : Bytes := encodeAs e.type e.signedItems

/-- The hash by which nodes know the transaction. -/
def hash (e : Envelope) : Hash := keccak256 e.encoded

/-- The bytes that are sent to a node: the canonical encoding, with the blobs where there are
any. -/
def wire (e : Envelope) : Bytes :=
  match e.fields.sidecar? with
  | some sidecar => encodeAs .blob (.ofList e.signedItems :: sidecar.items)
  | none => e.encoded

end Envelope

end TxCourier
