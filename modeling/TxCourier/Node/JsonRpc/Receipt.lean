import TxCourier.Node.JsonRpc.Transaction
import TxCourier.Node.Query

/-! # Receipts

What became of a transaction as nodes write it, with what the contracts told on the way. -/
namespace TxCourier.JsonRpc

/-- A record of what a contract told. Where it stands in the chain is always said, and may be
unknown. -/
def log? (v : Json) : Option Unit := do
  let r ← v.record? ["address", "topics", "data", "blockHash", "blockNumber", "blockTimestamp",
    "transactionHash", "transactionIndex", "logIndex", "removed"]
  let _ ← r.required "address" (Json.fixed? 20)
  let _ ← r.required "topics" (Json.listOf? (Json.fixed? 32))
  let _ ← r.required "data" Json.bytes?
  for name in ["blockHash", "transactionHash"] do
    let _ ← r.optional name (Json.fixed? 32)
  for name in ["blockNumber", "transactionIndex", "logIndex"] do
    let _ ← r.orNull name Json.uint64?
  let _ ← r.optional "blockTimestamp" Json.uint64?
  let _ ← r.withDefault "removed" false Json.bool?
  if r.byName then some () else none

/-- Whether the transaction succeeded: by its status if that can be read, or by the state root that
stands for it. -/
def status? (r : Json.Record) : Option Bool :=
  match (r.find? "status").bind (Json.quantity? 2) with
  | some n => some (n == 1)
  | none => (r.required "root" (Json.fixed? 32)).map fun _ => true

def receipt? (v : Json) : Option Receipt := do
  let r ← v.record? ["type", "status", "root", "cumulativeGasUsed", "logs", "logsBloom",
    "transactionHash", "transactionIndex", "blockHash", "blockNumber", "gasUsed",
    "effectiveGasPrice", "blobGasUsed", "blobGasPrice", "from", "to", "contractAddress"]
  let _ ← r.required "type" typeOf?
  let succeeded ← status? r
  let _ ← r.required "cumulativeGasUsed" Json.uint64?
  let _ ← r.required "logs" (Json.listOf? log?)
  let _ ← r.required "logsBloom" (Json.fixed? 256)
  let hash ← r.required "transactionHash" (Json.fixed? 32)
  let _ ← r.optional "transactionIndex" Json.uint64?
  let _ ← r.optional "blockHash" (Json.fixed? 32)
  let blockNumber ← r.optional "blockNumber" Json.uint64?
  let gasUsed ← r.required "gasUsed" Json.uint64?
  let _ ← r.optional "effectiveGasPrice" fee?
  let _ ← r.optional "blobGasUsed" Json.uint64?
  let _ ← r.optional "blobGasPrice" fee?
  let _ ← r.required "from" (Json.fixed? 20)
  let _ ← r.optional "to" (Json.fixed? 20)
  let _ ← r.optional "contractAddress" (Json.fixed? 20)
  if r.byName then some ⟨hash, blockNumber, succeeded, gasUsed⟩ else none

end TxCourier.JsonRpc
