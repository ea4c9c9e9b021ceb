import TxCourier.Gas.Quote
import TxCourier.Node.Error

/-! # What a node is asked

The questions that are put to a node and the kind of answer each has. A node is a function of what
it was asked before and what it is asked now, so it may answer the same question differently each
time, refuse it, or take its time. -/
namespace TxCourier

/-- The head of a block, as far as prices depend on it. -/
structure Header where
  number : UInt64
  hash : Hash
  baseFee : Option Word
deriving DecidableEq

/-- What became of a transaction that is in a block. -/
structure Receipt where
  hash : Hash
  blockNumber : Option UInt64
  succeeded : Bool
  gasUsed : UInt64
deriving DecidableEq

/-- A question. Where a block may be named, none is the latest. -/
inductive Query where
  | latestHeader
  | gasPrice
  | tip
  | pendingCode (account : Address)
  | code (account : Address) (block : Option UInt64)
  | balance (account : Address) (block : Option UInt64)
  | nonce (account : Address) (block : Option UInt64)
  | pendingNonce (account : Address)
  | estimate (message : CallMessage)
  | send (wire : Bytes)
  | receipt (hash : Hash)
  | blockNumber
  | call (message : CallMessage) (block : Option UInt64)
deriving DecidableEq

namespace Query

/-- The kind of answer that a question has. -/
def Answer : Query → Type
  | latestHeader => Header
  | gasPrice | tip | balance .. => Word
  | pendingCode _ | code .. | call .. => Bytes
  | nonce .. | pendingNonce _ | estimate _ | blockNumber => UInt64
  | send _ => Hash
  | receipt _ => Option Receipt

/-- Whether the question hands over a transaction. -/
def isSend : Query → Bool
  | send _ => true
  | _ => false

end Query

/-- An answer or a refusal, and the milliseconds it takes. -/
structure Reply (α : Type) where
  result : Except NodeError α
  delay : Nat

/-- What a node replies to a question after others, of which the newest comes first. -/
abbrev Node := List Query → (q : Query) → Reply q.Answer

namespace Node

/-- The node whose answers depend on nothing but the question. -/
def steady (answer : (q : Query) → Except NodeError q.Answer) : Node := fun _ q => ⟨answer q, 0⟩

end Node

end TxCourier
