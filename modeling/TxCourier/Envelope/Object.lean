import TxCourier.Envelope.Signing
import TxCourier.Json.Reader

/-! # Transaction objects

An envelope as the JSON object that nodes exchange: quantities as hexadecimal text, the calldata
under `input`, the parity beside `v` on the types that have a code, and the hash. What a type does
not have is left out. -/
namespace TxCourier

open Json

def AccessEntry.toJson (entry : AccessEntry) : Json :=
  .mk [("address", .ofFixed entry.address),
    ("storageKeys", .array (entry.storageKeys.map Json.ofFixed))]

def AccessEntry.ofJson? (v : Json) : Option AccessEntry := do
  let r ← v.record? ["address", "storageKeys"]
  return ⟨← r.required "address" (Json.fixed? 20),
    ← r.required "storageKeys" (Json.listOf? (Json.fixed? 32))⟩

def Authorization.toJson (auth : Authorization) : Json :=
  .mk [("chainId", .ofWord auth.chainId), ("address", .ofFixed auth.address),
    ("nonce", .ofQuantity auth.nonce.toNat), ("yParity", .ofQuantity auth.yParity.toNat),
    ("r", .ofWord auth.r), ("s", .ofWord auth.s)]

/-- Where the parity is absent, `v` stands in for it. An authorization is held before it is read,
three levels deep in the transaction object, and it is no array. -/
def Authorization.ofJson? (v : Json) : Option Authorization :=
  match v with
  | .object _ => do
    let r ← v.record? ["chainId", "address", "nonce", "yParity", "v", "r", "s"]
    if v.isDefinite (depthLimit - 2) then
      let yParity ← r.optional "yParity" Json.uint8?
      let stored ← r.optional "v" Json.uint8?
      return {
        chainId := ← r.required "chainId" Json.word?
        address := ← r.required "address" (Json.fixed? 20)
        nonce := ← r.required "nonce" Json.uint64?
        yParity := ← yParity.or stored
        r := ← r.required "r" Json.word?
        s := ← r.required "s" Json.word? }
    else none
  | _ => none

/-- The members of a transaction object as they were read, before its type is looked at. -/
structure TransactionObject where
  type : UInt64
  chainId : Option Word
  nonce : UInt64
  recipient : Option Address
  gas : UInt64
  gasPrice : Option Word
  maxPriorityFeePerGas : Option Word
  maxFeePerGas : Option Word
  maxFeePerBlobGas : Option Word
  value : Word
  input : Bytes
  accessList : Option AccessList
  blobVersionedHashes : Option (List Hash)
  authorizationList : Option (List Authorization)
  v : Word
  r : Word
  s : Word
  yParity : Option UInt64
  blobs : Option (List Blob)
  commitments : Option (List Proof48)
  proofs : Option (List Proof48)
  hash : Option Hash

namespace TransactionObject

/-- The names of the members in their order. -/
def names : List String :=
  ["type", "chainId", "nonce", "to", "gas", "gasPrice", "maxPriorityFeePerGas", "maxFeePerGas",
   "maxFeePerBlobGas", "value", "input", "accessList", "blobVersionedHashes", "authorizationList",
   "v", "r", "s", "yParity", "blobs", "commitments", "proofs", "hash"]

def ofJson? (v : Json) : Option TransactionObject := do
  let r ← v.record? names
  return {
    type := ← r.required "type" Json.uint64?
    chainId := ← r.optional "chainId" Json.word?
    nonce := ← r.required "nonce" Json.uint64?
    recipient := ← r.optional "to" (Json.fixed? 20)
    gas := ← r.required "gas" Json.uint64?
    gasPrice := ← r.optional "gasPrice" Json.word?
    maxPriorityFeePerGas := ← r.optional "maxPriorityFeePerGas" Json.word?
    maxFeePerGas := ← r.optional "maxFeePerGas" Json.word?
    maxFeePerBlobGas := ← r.optional "maxFeePerBlobGas" Json.word?
    value := ← r.required "value" Json.word?
    input := ← r.required "input" Json.bytes?
    accessList := ← r.optional "accessList" (Json.listOf? AccessEntry.ofJson?)
    blobVersionedHashes := ← r.optional "blobVersionedHashes" (Json.listOf? (Json.fixed? 32))
    authorizationList := ← r.optional "authorizationList" (Json.listOf? Authorization.ofJson?)
    v := ← r.withDefault "v" 0 Json.word?
    r := ← r.withDefault "r" 0 Json.word?
    s := ← r.withDefault "s" 0 Json.word?
    yParity := ← r.optional "yParity" Json.uint64?
    blobs := ← r.optional "blobs" (Json.listOf? (Json.fixed? 131072))
    commitments := ← r.optional "commitments" (Json.listOf? (Json.fixed? 48))
    proofs := ← r.optional "proofs" (Json.listOf? (Json.fixed? 48))
    hash := ← r.optional "hash" (Json.fixed? 32) }

def toJson (t : TransactionObject) : Json :=
  let list {α : Type} (f : α → Json) (items : Option (List α)) : Option Json :=
    items.map fun items => .array (items.map f)
  .ofMembers [
    ("type", some (.ofQuantity t.type.toNat)),
    ("chainId", t.chainId.map Json.ofWord),
    ("nonce", some (.ofQuantity t.nonce.toNat)),
    ("to", t.recipient.map Json.ofFixed),
    ("gas", some (.ofQuantity t.gas.toNat)),
    ("gasPrice", t.gasPrice.map Json.ofWord),
    ("maxPriorityFeePerGas", t.maxPriorityFeePerGas.map Json.ofWord),
    ("maxFeePerGas", t.maxFeePerGas.map Json.ofWord),
    ("maxFeePerBlobGas", t.maxFeePerBlobGas.map Json.ofWord),
    ("value", some (.ofWord t.value)),
    ("input", some (.ofBytes t.input)),
    ("accessList", list AccessEntry.toJson t.accessList),
    ("blobVersionedHashes", list Json.ofFixed t.blobVersionedHashes),
    ("authorizationList", list Authorization.toJson t.authorizationList),
    ("v", some (.ofWord t.v)),
    ("r", some (.ofWord t.r)),
    ("s", some (.ofWord t.s)),
    ("yParity", t.yParity.map fun y => .ofQuantity y.toNat),
    ("blobs", list Json.ofFixed t.blobs),
    ("commitments", list Json.ofFixed t.commitments),
    ("proofs", list Json.ofFixed t.proofs),
    ("hash", t.hash.map Json.ofFixed)]

/-- A member that the type cannot do without. -/
def required {α : Type} (field : String) (member : Option α) : Except EnvelopeError α :=
  match member with
  | some a => .ok a
  | none => .error (.missingField field)

/-- The chain: on the oldest type an absent one is taken from `v`. -/
def chainOf (t : TransactionObject) (type : TxType) : Except EnvelopeError Word :=
  match t.chainId, type with
  | some chainId, _ => .ok chainId
  | none, .legacy => .ok (if 35 ≤ t.v.toNat then (t.v - 35) / 2 else 0)
  | none, _ => .error (.missingField "chainId")

/-- The blobs: all three lists or none of them. -/
def sidecarOf (t : TransactionObject) : Except EnvelopeError (Option Sidecar) :=
  match t.blobs, t.commitments, t.proofs with
  | some blobs, some commitments, some proofs => .ok (some ⟨blobs, commitments, proofs⟩)
  | none, none, none => .ok none
  | _, _, _ => .error (.missingField "blobs, commitments and proofs")

def feesOf (t : TransactionObject) : Except EnvelopeError FeeCaps := do
  return ⟨← required "maxPriorityFeePerGas" t.maxPriorityFeePerGas,
    ← required "maxFeePerGas" t.maxFeePerGas⟩

def fieldsOf (t : TransactionObject) (type : TxType) : Except EnvelopeError Fields :=
  let list := t.accessList.getD []
  match type with
  | .legacy => do return .legacy (← required "gasPrice" t.gasPrice)
  | .accessList => do return .accessList (← required "gasPrice" t.gasPrice) list
  | .dynamicFee => do return .dynamicFee (← t.feesOf) list
  | .blob => do
    let sidecar ← t.sidecarOf
    return .blob (← t.feesOf) list (← required "maxFeePerBlobGas" t.maxFeePerBlobGas)
      (← required "blobVersionedHashes" t.blobVersionedHashes) sidecar
  | .setCode => do
    return .setCode (← t.feesOf) list (← required "authorizationList" t.authorizationList)

/-- The stored `v`: where a type has a code and `v` is zero, the parity stands in for it. -/
def storedV (t : TransactionObject) (type : TxType) : Word :=
  match t.yParity with
  | some parity => if type.isTyped ∧ t.v = 0 then Word.ofUInt64 parity else t.v
  | none => t.v

def typeOf (t : TransactionObject) : Except EnvelopeError TxType :=
  match TxType.ofCode? t.type.toNat with
  | some type => .ok type
  | none => .error (.unsupportedType t.type.toNat)

def envelope (t : TransactionObject) : Except EnvelopeError Envelope := do
  let type ← t.typeOf
  let chainId ← t.chainOf type
  let fields ← t.fieldsOf type
  return (((((Envelope.ofFields chainId fields).setNonce t.nonce).setGas t.gas).setRecipient
    t.recipient).setValue t.value).setData t.input |>.setSignature ⟨t.storedV type, t.r, t.s⟩

end TransactionObject

namespace Envelope

/-- The transaction object of an envelope. -/
def object (e : Envelope) : TransactionObject where
  type := e.type.code.toUInt64
  chainId := some e.chainId
  nonce := e.nonce
  recipient := e.recipient
  gas := e.gas
  gasPrice := e.fields.gasPrice?
  maxPriorityFeePerGas := e.fields.feeCaps?.map (·.tip)
  maxFeePerGas := e.fields.feeCaps?.map (·.cap)
  maxFeePerBlobGas := e.fields.blobFeeCap?
  value := e.value
  input := e.data
  accessList := e.fields.accessList?
  blobVersionedHashes := e.fields.blobHashes?
  authorizationList := e.fields.authorizations?
  v := e.signature.v
  r := e.signature.r
  s := e.signature.s
  yParity :=
    if e.type.isTyped then
      match e.yParity with
      | .ok parity => some (if parity then 1 else 0)
      | .error _ => none
    else none
  blobs := e.fields.sidecar?.map (·.blobs)
  commitments := e.fields.sidecar?.map (·.commitments)
  proofs := e.fields.sidecar?.map (·.proofs)
  hash := some e.hash

/-- The text of the transaction object. -/
def toJson (e : Envelope) : String := e.object.toJson.render

/-- The envelope that a transaction object gives. Its hash is not looked at. -/
def ofJson (text : String) : Except EnvelopeError Envelope :=
  match (Json.parse? text).bind TransactionObject.ofJson? with
  | none => .error (.json "not a transaction object")
  | some t => t.envelope

end Envelope

end TxCourier
