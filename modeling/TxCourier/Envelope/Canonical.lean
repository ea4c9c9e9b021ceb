import TxCourier.Envelope.Encoding
import TxCourier.Curve.Ecdsa

/-! # Canonical transactions

A transaction as nodes exchange it: chains and fees have the widths of the format, and the
signature is a pair of scalars with a parity. Reading accepts the shortest form of each field only.
Two forms come beside the canonical one: the oldest type behind the code zero, and blobs beside
the list of fields. -/
namespace TxCourier

open Rlp

/-- Blobs as they travel: with a proof for each blob, or with proofs for the cells of blobs. -/
structure TravellingBlobs where
  provesCells : Bool
  sidecar : Sidecar
deriving DecidableEq

structure FeePair where
  tip : Fee
  cap : Fee
deriving DecidableEq

/-- The chain, the pricing, the recipient and the lists of a type. -/
inductive CanonicalBody where
  | legacy (chainId : Option UInt64) (gasPrice : Fee) (recipient : Option Address)
  | accessList (chainId : UInt64) (gasPrice : Fee) (recipient : Option Address) (list : AccessList)
  | dynamicFee (chainId : UInt64) (fees : FeePair) (recipient : Option Address) (list : AccessList)
  | blob (chainId : UInt64) (fees : FeePair) (recipient : Address) (list : AccessList)
      (blobFeeCap : Fee) (blobHashes : List Hash) (blobs : Option TravellingBlobs)
  | setCode (chainId : UInt64) (fees : FeePair) (recipient : Address) (list : AccessList)
      (authorizations : List Authorization)
deriving DecidableEq

structure CanonicalTx where
  nonce : UInt64
  gas : UInt64
  value : Word
  data : Bytes
  body : CanonicalBody
  signature : Signature
deriving DecidableEq

namespace CanonicalTx

def type (t : CanonicalTx) : TxType :=
  match t.body with
  | .legacy .. => .legacy
  | .accessList .. => .accessList
  | .dynamicFee .. => .dynamicFee
  | .blob .. => .blob
  | .setCode .. => .setCode

def chainId? (t : CanonicalTx) : Option UInt64 :=
  match t.body with
  | .legacy chainId .. => chainId
  | .accessList chainId .. | .dynamicFee chainId .. | .blob chainId .. | .setCode chainId .. =>
    some chainId

/-- The `v` of the encoding. -/
def v (t : CanonicalTx) : Nat :=
  let parity := if t.signature.parity then 1 else 0
  match t.body with
  | .legacy (some chainId) .. => 35 + 2 * chainId.toNat + parity
  | .legacy none .. => 27 + parity
  | _ => parity

def items (t : CanonicalTx) : List Item :=
  let call (recipient : Option Address) : List Item :=
    [.ofRecipient recipient, .ofWord t.value, .bytes t.data]
  let place (chainId : UInt64) : List Item := [.ofUInt64 chainId, .ofUInt64 t.nonce]
  let fee (f : Fee) : Item := .ofNat f.toNat
  let capped (chainId : UInt64) (fees : FeePair) (recipient : Option Address) (list : AccessList) :
      List Item :=
    place chainId ++ [fee fees.tip, fee fees.cap, .ofUInt64 t.gas] ++ call recipient ++ [list.item]
  let signature : List Item := [.ofNat t.v, .ofWord t.signature.r, .ofWord t.signature.s]
  match t.body with
  | .legacy _ price recipient =>
    [.ofUInt64 t.nonce, fee price, .ofUInt64 t.gas] ++ call recipient ++ signature
  | .accessList chainId price recipient list =>
    place chainId ++ [fee price, .ofUInt64 t.gas] ++ call recipient ++ [list.item] ++ signature
  | .dynamicFee chainId fees recipient list => capped chainId fees recipient list ++ signature
  | .blob chainId fees recipient list cap hashes _ =>
    capped chainId fees (some recipient) list ++ [fee cap, .ofList (hashes.map Item.ofFixed)]
      ++ signature
  | .setCode chainId fees recipient list auths =>
    capped chainId fees (some recipient) list ++ [.ofList (auths.map Authorization.item)]
      ++ signature

def blobs? (t : CanonicalTx) : Option TravellingBlobs :=
  match t.body with
  | .blob _ _ _ _ _ _ blobs => blobs
  | _ => none

/-- The encoding without blobs, whose digest is the hash of the transaction. -/
def canonicalBytes (t : CanonicalTx) : Bytes := Envelope.encodeAs t.type t.items

def hash (t : CanonicalTx) : Hash := keccak256 t.canonicalBytes

/-- The encoding, with the blobs where there are any. -/
def encoded (t : CanonicalTx) : Bytes :=
  match t.blobs? with
  | none => t.canonicalBytes
  | some blobs =>
    let version : List Item := if blobs.provesCells then [.ofNat 1] else []
    Envelope.encodeAs .blob (.ofList t.items :: version ++ blobs.sidecar.items)

/-! ## Reading -/

def accessEntry? (i : Item) : Option AccessEntry :=
  match i.items? with
  | some [address, keys] => do
    return ⟨← address.fixed? 20, ← keys.listOf? (Item.fixed? 32)⟩
  | _ => none

def accessList? (i : Item) : Option AccessList := i.listOf? accessEntry?

def authorization? (i : Item) : Option Authorization :=
  match i.items? with
  | some [chainId, address, nonce, yParity, r, s] => do
    return ⟨← chainId.word?, ← address.fixed? 20, ← nonce.uint64?, ← yParity.uint8?, ← r.word?,
      ← s.word?⟩
  | _ => none

/-- The parity and the chain that the `v` of the oldest type tells. -/
def splitV (v : Nat) : Option (Bool × Option UInt64) :=
  if v = 27 then some (false, none)
  else if v = 28 then some (true, none)
  else if 35 ≤ v ∧ (v - 35) / 2 < UInt64.size then
    some ((v - 35) % 2 = 1, some (UInt64.ofNat ((v - 35) / 2)))
  else none

def signature? (parity r s : Item) : Option Signature := do
  let parity ← parity.bool?
  return ⟨← r.word?, ← s.word?, parity⟩

def feePair? (tip cap : Item) : Option FeePair := do
  return ⟨← tip.fee?, ← cap.fee?⟩

/-- The fields of the oldest type. -/
def ofLegacyItems? : List Item → Option CanonicalTx
  | [nonce, price, gas, recipient, value, data, v, r, s] => do
    let nonce ← nonce.uint64?
    let price ← price.fee?
    let gas ← gas.uint64?
    let recipient ← recipient.recipient?
    let value ← value.word?
    let data ← data.bytes?
    let (parity, chainId) ← splitV (← v.nat? 16)
    let signature : Signature := ⟨← r.word?, ← s.word?, parity⟩
    return { nonce, gas, value, data, body := .legacy chainId price recipient, signature }
  | _ => none

/-- The fields of a type that is told by its code. -/
def ofTypedItems? : TxType → List Item → Option CanonicalTx
  | .accessList, [chainId, nonce, price, gas, recipient, value, data, list, parity, r, s] => do
    let body := CanonicalBody.accessList (← chainId.uint64?) (← price.fee?) (← recipient.recipient?)
      (← accessList? list)
    let signature ← signature? parity r s
    return ⟨← nonce.uint64?, ← gas.uint64?, ← value.word?, ← data.bytes?, body, signature⟩
  | .dynamicFee, [chainId, nonce, tip, cap, gas, recipient, value, data, list, parity, r, s] => do
    let body := CanonicalBody.dynamicFee (← chainId.uint64?) (← feePair? tip cap)
      (← recipient.recipient?) (← accessList? list)
    let signature ← signature? parity r s
    return ⟨← nonce.uint64?, ← gas.uint64?, ← value.word?, ← data.bytes?, body, signature⟩
  | .blob, [chainId, nonce, tip, cap, gas, recipient, value, data, list, blobFee, hashes, parity, r,
      s] => do
    let body := CanonicalBody.blob (← chainId.uint64?) (← feePair? tip cap) (← recipient.fixed? 20)
      (← accessList? list) (← blobFee.fee?) (← hashes.listOf? (Item.fixed? 32)) none
    let signature ← signature? parity r s
    return ⟨← nonce.uint64?, ← gas.uint64?, ← value.word?, ← data.bytes?, body, signature⟩
  | .setCode, [chainId, nonce, tip, cap, gas, recipient, value, data, list, auths, parity, r,
      s] => do
    let body := CanonicalBody.setCode (← chainId.uint64?) (← feePair? tip cap)
      (← recipient.fixed? 20) (← accessList? list) (← auths.listOf? authorization?)
    let signature ← signature? parity r s
    return ⟨← nonce.uint64?, ← gas.uint64?, ← value.word?, ← data.bytes?, body, signature⟩
  | _, _ => none

def sidecar? (blobs commitments proofs : Item) : Option Sidecar := do
  return ⟨← blobs.listOf? (Item.fixed? 131072), ← commitments.listOf? (Item.fixed? 48),
    ← proofs.listOf? (Item.fixed? 48)⟩

def withBlobs (t : CanonicalTx) (blobs : TravellingBlobs) : CanonicalTx :=
  match t.body with
  | .blob chainId fees recipient list cap hashes _ =>
    { t with body := .blob chainId fees recipient list cap hashes (some blobs) }
  | _ => t

/-- The list of fields with blobs beside it. A one in front of the blobs says that the proofs are
about cells. -/
def ofTravellingItems? : List Item → Option CanonicalTx
  | [fields, blobs, commitments, proofs] => do
    let t ← ofTypedItems? .blob (← fields.items?)
    return t.withBlobs ⟨false, ← sidecar? blobs commitments proofs⟩
  | [fields, version, blobs, commitments, proofs] => do
    let t ← ofTypedItems? .blob (← fields.items?)
    if version = .ofNat 1 then
      return t.withBlobs ⟨true, ← sidecar? blobs commitments proofs⟩
    else none
  | _ => none

/-- Fields behind the code of a type. Blobs travel beside them if the first item is a list. -/
def ofItems? (t : TxType) (items : List Item) : Option CanonicalTx :=
  match t, items with
  | .legacy, items => ofLegacyItems? items
  | .blob, .list payload :: rest => ofTravellingItems? (.list payload :: rest)
  | t, items => ofTypedItems? t items

/-- The type that the first byte tells, and the bytes of the list. -/
def splitCode? : Bytes → Option (TxType × Bytes)
  | [] => none
  | x :: rest =>
    if x ≤ 0x7f then (TxType.ofCode? x.toNat).map fun t => (t, rest)
    else some (.legacy, x :: rest)

/-- The transaction at the head of a byte string, and what follows it. -/
def read? (b : Bytes) : Option (CanonicalTx × Bytes) := do
  let (t, list) ← splitCode? b
  let (i, rest) ← Item.read? list
  let tx ← ofItems? t (← i.items?)
  return (tx, rest)

end CanonicalTx

end TxCourier
