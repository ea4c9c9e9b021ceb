import TxCourier.Envelope.Object

/-! # Transactions in a block

A block may list whole transactions. Nothing of them is kept, but a block is read only if each has
the members of its type, a signature and a hash. -/
namespace TxCourier.JsonRpc

/-- The type that a code stands for: text of one digit or two, or a number. -/
def typeOf? : Json → Option TxType
  | .string (some text) =>
    TxType.all.find? fun t => text = "0x" ++ t.code.toNat.repr ∨ text = "0x0" ++ t.code.toNat.repr
  | v => v.nat?.bind TxType.ofCode?

def fee? (v : Json) : Option Nat := v.quantity? Fee.size

/-- The parity that a `v` stands for and the chain that it names. -/
def parityOf? (v : Nat) : Option (Bool × Option Nat) :=
  if v = 0 ∨ v = 27 then some (false, none)
  else if v = 1 ∨ v = 28 then some (true, none)
  else if 35 ≤ v then some ((v - 35) % 2 = 1, some ((v - 35) / 2))
  else none

/-- Whether a signature is there. On the oldest type its `v` may name a chain, which is the one that
is given, and a signature of zeros is taken as it is. -/
def isSigned (type : TxType) (r : Json.Record) : Option Bool := do
  let x ← r.required "r" Json.word?
  let y ← r.required "s" Json.word?
  match type with
  | .legacy =>
    let v ← r.required "v" Json.word?
    let chain ← r.optional "chainId" Json.uint64?
    if v = 0 ∧ x = 0 ∧ y = 0 then return true
    else
      match ← parityOf? v.toNat, chain with
      | (_, some named), some given =>
        return named == given.toNat
      | (_, some named), none => return named < UInt64.size
      | (_, none), _ => return true
  | _ =>
    let parity ← r.optional "yParity" Json.uint64?
    let v ← r.optional "v" Json.uint64?
    match parity, v with
    | some parity, _ => return parity ≤ 1
    | none, some v => return (parityOf? v.toNat).isSome
    | none, none => return false

/-- The members of a type beside those that every transaction has. -/
def ownMembers (type : TxType) (r : Json.Record) : Option Unit := do
  if type.isTyped then
    let _ ← r.required "chainId" Json.uint64?
    let _ ← r.orNull "accessList" (Json.listOf? AccessEntry.ofJson?)
  if type.isDynamicFee then
    let _ ← r.required "maxFeePerGas" fee?
    let _ ← r.required "maxPriorityFeePerGas" fee?
  else
    let _ ← r.required "gasPrice" fee?
  if type.needsRecipient then
    let _ ← r.required "to" (Json.fixed? 20)
  match type with
  | .blob =>
    let _ ← r.required "maxFeePerBlobGas" fee?
    let _ ← r.required "blobVersionedHashes" (Json.listOf? (Json.fixed? 32))
  | .setCode =>
    let _ ← r.required "authorizationList" (Json.listOf? Authorization.ofJson?)
  | _ => return ()

/-- Whether a value is a transaction as blocks list them. One without a type is of the oldest. -/
def isTransaction (v : Json) : Bool :=
  let read : Option Bool := do
    let r ← v.record? ["type", "chainId", "nonce", "gasPrice", "maxFeePerGas",
      "maxPriorityFeePerGas", "maxFeePerBlobGas", "gas", "to", "value", "input", "accessList",
      "blobVersionedHashes", "authorizationList", "r", "s", "v", "yParity", "hash", "blockHash",
      "blockNumber", "transactionIndex", "from"]
    let type := (← r.optional "type" typeOf?).getD .legacy
    for name in ["nonce", "gas"] do
      let _ ← r.required name Json.uint64?
    let _ ← r.optional "to" (Json.fixed? 20)
    let _ ← r.required "value" Json.word?
    let _ ← r.required "input" Json.bytes?
    ownMembers type r
    let _ ← r.required "hash" (Json.fixed? 32)
    let _ ← r.optional "blockHash" (Json.fixed? 32)
    for name in ["blockNumber", "transactionIndex"] do
      let _ ← r.optional name Json.uint64?
    let _ ← r.required "from" (Json.fixed? 20)
    let _ ← r.optional "gasPrice" fee?
    return r.byName && (← isSigned type r)
  read.getD false

end TxCourier.JsonRpc
