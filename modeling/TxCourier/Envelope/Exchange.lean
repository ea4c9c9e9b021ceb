import TxCourier.Envelope.Canonical
import TxCourier.Envelope.Signing

/-! # Envelopes and canonical transactions

The two directions between them. A canonical transaction of the oldest type that is not signed has
no place for its chain, so it carries a marker in the place of the signature: both scalars one. The
marker is put there on the way out and taken away on the way in. -/
namespace TxCourier

namespace Envelope

/-- The fields of a canonical transaction and the chain to which it belongs. The blobs that travel
beside it are left behind. -/
def partsOf (t : CanonicalTx) (fallback : Option Word) : Word × Fields × Option Address :=
  let caps (fees : FeePair) : FeeCaps := ⟨Word.ofFee fees.tip, Word.ofFee fees.cap⟩
  match t.body with
  | .legacy chainId price recipient =>
    (((chainId.map Word.ofUInt64).or fallback).getD 0, .legacy (Word.ofFee price), recipient)
  | .accessList chainId price recipient list =>
    (Word.ofUInt64 chainId, .accessList (Word.ofFee price) list, recipient)
  | .dynamicFee chainId fees recipient list =>
    (Word.ofUInt64 chainId, .dynamicFee (caps fees) list, recipient)
  | .blob chainId fees recipient list cap hashes _ =>
    (Word.ofUInt64 chainId, .blob (caps fees) list (Word.ofFee cap) hashes none, some recipient)
  | .setCode chainId fees recipient list auths =>
    (Word.ofUInt64 chainId, .setCode (caps fees) list auths, some recipient)

/-- The stored form of the signature of a canonical transaction. -/
def storedSignature (t : CanonicalTx) (chainId : Word) : RawSignature :=
  let sig := t.signature
  let parity : UInt64 := if sig.parity then 1 else 0
  match t.body with
  | .legacy told .. =>
    if sig.r = 1 ∧ sig.s = 1 then .empty
    else if told.isSome then ⟨storedV parity chainId true, sig.r, sig.s⟩
    else ⟨Word.ofUInt64 (27 + parity), sig.r, sig.s⟩
  | _ => ⟨Word.ofBool sig.parity, sig.r, sig.s⟩

/-- The envelope of a canonical transaction. Where it does not tell its chain, the fallback does,
and without one the chain is zero. -/
def ofCanonical (t : CanonicalTx) (fallback : Option Word) : Envelope :=
  let (chainId, fields, recipient) := partsOf t fallback
  (((((ofFields chainId fields).setNonce t.nonce).setGas t.gas).setRecipient recipient).setValue
    t.value).setData t.data |>.setSignature (storedSignature t chainId)

/-- The envelope of an encoded transaction. -/
def ofWire (b : Bytes) : Except EnvelopeError Envelope :=
  match CanonicalTx.read? b with
  | none => .error (.undecodable .malformed)
  | some (t, []) => .ok (ofCanonical t none)
  | some (_, rest) => .error (.undecodable (.trailing rest.length))

def fee (field : String) (w : Word) : Except EnvelopeError Fee :=
  match w.toFee? with
  | some f => .ok f
  | none => .error (.fieldOverflow field)

/-- The cap is looked at before the tip. -/
def feePair (fees : FeeCaps) : Except EnvelopeError FeePair := do
  let cap ← fee "max_fee_per_gas" fees.cap
  let tip ← fee "max_priority_fee_per_gas" fees.tip
  return ⟨tip, cap⟩

/-- An unsigned envelope of the oldest type carries the marker, any other is as it is. -/
def marked (e : Envelope) : Envelope :=
  if e.type.isTyped = false ∧ e.signature.isEmpty then
    e.setSignature ⟨storedV 27 e.chainId true, 1, 1⟩
  else e

/-- What belongs to the type, as far as the fees have room. -/
def canonicalBody (e : Envelope) (chainId : UInt64) : Except EnvelopeError CanonicalBody :=
  let recipient := e.recipient.getD Address.zero
  match e.fields with
  | .legacy price => do
    let told := if e.marked.isReplayProtected then some chainId else none
    return .legacy told (← fee "gas_price" price) e.recipient
  | .accessList price list => do
    return .accessList chainId (← fee "gas_price" price) e.recipient list
  | .dynamicFee fees list => do
    return .dynamicFee chainId (← feePair fees) e.recipient list
  | .blob fees list cap hashes _ => do
    let fees ← feePair fees
    return .blob chainId fees recipient list (← fee "max_fee_per_blob_gas" cap) hashes none
  | .setCode fees list auths => do
    return .setCode chainId (← feePair fees) recipient list auths

/-- The canonical transaction of an envelope. The chain is looked at first, then the parity, then
the fees. -/
def toCanonical (e : Envelope) : Except EnvelopeError CanonicalTx :=
  match e.chainId.toUInt64? with
  | none => .error (.fieldOverflow "chain_id")
  | some chainId => do
    let parity ← e.marked.yParity
    let body ← e.canonicalBody chainId
    let sig := e.marked.signature
    return { nonce := e.nonce, gas := e.gas, value := e.value, data := e.data, body,
             signature := ⟨sig.r, sig.s, parity⟩ }

end Envelope

end TxCourier
