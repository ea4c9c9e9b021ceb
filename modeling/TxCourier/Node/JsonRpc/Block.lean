import TxCourier.Node.JsonRpc.Transaction
import TxCourier.Node.Query

/-! # Blocks

The header of a block as nodes write it. A block has many more members than are looked at, and each
of them has to be what it should be. -/
namespace TxCourier.JsonRpc

/-- Members that have a second name, and the first. -/
def secondNames : List (String × String) :=
  [("ommersHash", "sha3Uncles"), ("beneficiary", "miner")]

/-- An object whose members go by their first names. -/
def byFirstNames : Json → Json
  | .object members => .object (members.map fun (name, v) =>
      (name.map fun n => (List.lookup n secondNames).getD n, v))
  | v => v

/-- What is paid out to a validator. -/
def withdrawal? (v : Json) : Option Unit := do
  let r ← v.record? ["index", "validatorIndex", "address", "amount"]
  for name in ["index", "validatorIndex", "amount"] do
    let _ ← r.required name Json.uint64?
  let _ ← r.required "address" (Json.fixed? 20)

/-- The transactions of a block: all of them whole, or the hash of each. -/
def isListing (v : Json) : Bool :=
  match v with
  | .null => true
  | .array items => items.all isTransaction || items.all fun item => (item.fixed? 32).isSome
  | _ => false

/-- The header that the members of a block give. -/
def header? (v : Json) : Option Header := do
  let r ← (byFirstNames v).record? ["hash", "parentHash", "sha3Uncles", "miner", "stateRoot",
    "transactionsRoot", "receiptsRoot", "logsBloom", "difficulty", "number", "gasLimit", "gasUsed",
    "timestamp", "extraData", "mixHash", "nonce", "baseFeePerGas", "totalDifficulty", "size",
    "withdrawalsRoot", "blobGasUsed", "excessBlobGas", "parentBeaconBlockRoot", "requestsHash",
    "uncles", "transactions", "withdrawals"]
  if !r.byName then none
  else
    let hash ← r.required "hash" (Json.fixed? 32)
    for name in ["parentHash", "sha3Uncles", "stateRoot", "transactionsRoot", "receiptsRoot",
        "mixHash"] do
      let _ ← r.required name (Json.fixed? 32)
    let _ ← r.required "miner" (Json.fixed? 20)
    let _ ← r.required "logsBloom" (Json.fixed? 256)
    let _ ← r.required "difficulty" Json.word?
    for name in ["gasLimit", "gasUsed", "timestamp"] do
      let _ ← r.required name Json.uint64?
    let _ ← r.required "extraData" Json.bytes?
    let _ ← r.required "nonce" (Json.fixed? 8)
    for name in ["totalDifficulty", "size"] do
      let _ ← r.optional name Json.word?
    for name in ["blobGasUsed", "excessBlobGas"] do
      let _ ← r.optional name Json.uint64?
    for name in ["withdrawalsRoot", "parentBeaconBlockRoot", "requestsHash"] do
      let _ ← r.optional name (Json.fixed? 32)
    let _ ← r.withDefault "uncles" [] (Json.listOf? (Json.fixed? 32))
    let _ ← r.optional "withdrawals" (Json.listOf? withdrawal?)
    let number ← r.required "number" Json.uint64?
    let baseFee ← r.optional "baseFeePerGas" Json.uint64?
    if (r.find? "transactions").all isListing then
      return ⟨number, hash, baseFee.map Word.ofUInt64⟩
    else none

end TxCourier.JsonRpc
