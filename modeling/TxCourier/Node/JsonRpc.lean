import TxCourier.Node.JsonRpc.Block
import TxCourier.Node.JsonRpc.Receipt

/-! # Nodes behind JSON-RPC

How a question is written as a request, and how the response to it is read. A question that cannot
be written is not sent. Answers are read as strictly as their kind demands: blocks and receipts need
all the fields that they always have, not only those that are looked at. -/
namespace TxCourier.JsonRpc

structure Request where
  method : String
  /-- The parameters, which some methods do without. -/
  params : Option (List Json)

inductive Response where
  | result (v : Json)
  /-- The data is the text that stands there, as it is written. -/
  | error (code : Int) (message : String) (data : Option String)
  /-- No response came, for some reason. -/
  | failed (reason : String)

/-- Why there is no answer. -/
inductive Fault where
  | node (e : NodeError)
  /-- The response is not of the kind that was asked for. -/
  | unreadable

def Fault.toNodeError : Fault → NodeError
  | node e => e
  | unreadable => .transport "deserialization error"

/-! ## Requests -/

/-- The name of a block, or its number. -/
def blockTag : Option UInt64 → Json
  | none => .ofString "latest"
  | some n => Json.ofQuantity n.toNat

def pendingTag : Json := .ofString "pending"

/-- A price in 128 bits, if it fits. -/
def feeMember (name : String) : Option Word → Except NodeError (Option Json)
  | none => .ok none
  | some fee =>
    match fee.toFee? with
    | some _ => .ok (some (.ofWord fee))
    | none => .error (.transport (name ++ " does not fit in 128 bits"))

/-- A call message as the object of a transaction. -/
def transaction (m : CallMessage) : Except NodeError Json := do
  let gasPrice ← feeMember "gas price" m.gasPrice
  let tip ← feeMember "max priority fee per gas" m.tip
  let cap ← feeMember "max fee per gas" m.cap
  return .ofMembers [("from", some (.ofFixed m.sender)), ("to", m.recipient.map Json.ofFixed),
    ("gasPrice", gasPrice), ("maxFeePerGas", cap), ("maxPriorityFeePerGas", tip),
    ("value", some (.ofWord m.value)), ("input", some (.ofBytes m.data))]

/-- The request that puts a question, or why it cannot be put. -/
def request : Query → Except NodeError Request
  | .latestHeader => .ok ⟨"eth_getBlockByNumber", some [.ofString "latest", .bool false]⟩
  | .gasPrice => .ok ⟨"eth_gasPrice", none⟩
  | .tip => .ok ⟨"eth_maxPriorityFeePerGas", none⟩
  | .pendingCode a => .ok ⟨"eth_getCode", some [.ofFixed a, pendingTag]⟩
  | .code a block => .ok ⟨"eth_getCode", some [.ofFixed a, blockTag block]⟩
  | .balance a block => .ok ⟨"eth_getBalance", some [.ofFixed a, blockTag block]⟩
  | .nonce a block => .ok ⟨"eth_getTransactionCount", some [.ofFixed a, blockTag block]⟩
  | .pendingNonce a => .ok ⟨"eth_getTransactionCount", some [.ofFixed a, pendingTag]⟩
  | .estimate m => do return ⟨"eth_estimateGas", some [← transaction m, pendingTag]⟩
  | .send wire => .ok ⟨"eth_sendRawTransaction", some [.ofBytes wire]⟩
  | .receipt hash => .ok ⟨"eth_getTransactionReceipt", some [.ofFixed hash]⟩
  | .blockNumber => .ok ⟨"eth_blockNumber", none⟩
  | .call m block => do return ⟨"eth_call", some [← transaction m, blockTag block]⟩

/-! ## Responses -/

/-- A text without the quotation marks around it. -/
def unquoted (text : String) : String :=
  let isQuote (c : Char) : Bool := c = '"'
  String.ofList (((text.toList.dropWhile isQuote).reverse.dropWhile isQuote).reverse)

/-- The data of an error as the text by which it is known. Escapes in it are left as they are. -/
def dataText (data : String) : String := Hex.withPrefix (unquoted data)

/-- A fee, which has 128 bits. -/
def feeWord? (v : Json) : Option Word := (fee? v).map (BitVec.ofNat 256)

def orUnreadable {α : Type} : Option α → Except Fault α
  | some a => .ok a
  | none => .error .unreadable

/-- The answer that a result gives. -/
def answer : (q : Query) → Json → Except Fault q.Answer
  | .latestHeader, .null => .error (.node (.transport "Latest block not found"))
  | .latestHeader, v => orUnreadable (header? v)
  | .gasPrice, v => orUnreadable (feeWord? v)
  | .tip, v => orUnreadable (feeWord? v)
  | .pendingCode _, v => orUnreadable v.bytes?
  | .code .., v => orUnreadable v.bytes?
  | .balance .., v => orUnreadable v.word?
  | .nonce .., v => orUnreadable v.uint64?
  | .pendingNonce _, v => orUnreadable v.uint64?
  | .estimate _, v => orUnreadable v.uint64?
  | .send _, v => orUnreadable (v.fixed? 32)
  | .receipt _, .null => .ok (none : Option Receipt)
  | .receipt _, v => orUnreadable ((receipt? v).map some)
  | .blockNumber, v => orUnreadable v.uint64?
  | .call .., v => orUnreadable v.bytes?

/-- The answer that a response gives. -/
def read (q : Query) : Response → Except Fault q.Answer
  | .result v => answer q v
  | .error code message data => .error (.node (.answered code message (data.map dataText)))
  | .failed reason => .error (.node (.transport reason))

/-- The answer to a question over a transport, which is told what was sent over it before. -/
def exchange (transport : List Request → Request → Response) (earlier : List Request) (q : Query) :
    Except Fault q.Answer :=
  match request q with
  | .error e => .error (.node e)
  | .ok r => read q (transport earlier r)

/-- The node behind a transport. -/
def node (transport : List Request → Request → Response) : Node := fun earlier q =>
  let sent := earlier.filterMap fun q => (request q).toOption
  ⟨(exchange transport sent q).mapError Fault.toNodeError, 0⟩

end TxCourier.JsonRpc
