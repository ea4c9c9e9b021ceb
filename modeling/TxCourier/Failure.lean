import TxCourier.Envelope.Error
import TxCourier.Envelope.Basic
import TxCourier.Node.Error
import TxCourier.Revert

/-! # Why a transaction is not delivered

All that may go wrong between a call and its confirmation, the sentence for each, and the questions
that are asked of a failure whatever step it is wrapped in. -/
namespace TxCourier

/-- The sender cannot pay: the balance that was seen, or what the node said. -/
structure Shortfall where
  balance : Option Word
  reported : Option ExecutionError
deriving DecidableEq

def Shortfall.message : Shortfall → String
  | ⟨some balance, _⟩ => "[insufficient eth balance (" ++ balance.decimal ++ ")]"
  | ⟨none, some e⟩ => "[insufficient eth balance (" ++ e.message ++ ")]"
  | ⟨none, none⟩ => "[insufficient eth balance]"

/-- A transaction that was sent and what the node had against it. -/
structure Rejection where
  transaction : Envelope
  cause : NodeError
deriving DecidableEq

/-- Why a price is of no use. -/
inductive PriceFault where
  | belowBaseFee
  | notSupported
  | capTooLow
  | reported (reason : String)
deriving DecidableEq, Repr

def PriceFault.message : PriceFault → String
  | belowBaseFee => "legacy gas price is lower than base fee"
  | notSupported => "chain does not support EIP-1559"
  | capTooLow => "max fee per gas is too low"
  | reported reason => reason

/-- What a transaction needs before a step can be taken. -/
inductive Requirement where
  | sender
  | price
  | nonce
  | gasLimit
  | cappedPrice
  | singlePrice
  | reported (text : String)
deriving DecidableEq, Repr

def Requirement.message : Requirement → String
  | sender => "from is required"
  | price => "gas price is required"
  | nonce => "nonce is required"
  | gasLimit => "gas limit is required"
  | cappedPrice => "dynamic gas price is required"
  | singlePrice => "legacy gas price is required"
  | reported text => text

inductive Failure where
  | node (e : NodeError)
  /-- A node's error that was looked at more closely. -/
  | execution (e : ExecutionError)
  | invalidPrice (fault : PriceFault)
  | missing (what : Requirement)
  /-- A contract is called with no data. -/
  | emptyCall
  /-- What has to be a contract has no code. -/
  | noCode
  /-- No gas limit could be had. -/
  | estimation (inner : Failure)
  | insufficientBalance (s : Shortfall)
  | rejected (r : Rejection)
  /-- The transaction was taken into a block and did not succeed. -/
  | receiptFailed (hash : Hash)
  | receiptWithoutBlock (hash : Hash)
  | cancelled
  /-- The last look at a signed transaction held it back. -/
  | heldBack (reason : String)
  | signing (reason : String)
  | envelope (e : EnvelopeError)
  /-- A failure with the step in which it happened. -/
  | during (step : String) (inner : Failure)
deriving DecidableEq

namespace Failure

def message : Failure → String
  | node e => "ethereum rpc error: " ++ e.message
  | execution e => "ethereum rpc error: " ++ e.message
  | invalidPrice fault => "invalid gas price: " ++ fault.message
  | missing what => "missing required field: " ++ what.message
  | emptyCall => "contract call with empty data"
  | noCode => "no contract code at given address"
  | estimation inner => inner.message
  | insufficientBalance s => s.message
  | rejected r => r.cause.message
  | receiptFailed hash => "receipt status not successful: " ++ Hex.prefixed hash.toList
  | receiptWithoutBlock hash => "receipt without block number: " ++ Hex.prefixed hash.toList
  | cancelled => "cancelled"
  | heldBack reason => "before send hook failed: " ++ reason
  | signing reason => "signing failed: " ++ reason
  | envelope e => e.message
  | during step inner => step ++ ": " ++ inner.message

/-- Whether the node or the way to it is to blame. -/
def isNodes : Failure → Bool
  | node _ | execution _ | rejected _ => true
  | insufficientBalance s => s.reported.isSome
  | estimation inner => inner.isNodes
  | during _ inner => inner.isNodes
  | _ => false

/-- Whether no gas limit could be had. -/
def isEstimation : Failure → Bool
  | estimation _ => true
  | during _ inner => inner.isEstimation
  | _ => false

/-- The lack of funds behind a failure. -/
def shortfall? : Failure → Option Shortfall
  | insufficientBalance s => some s
  | estimation inner => inner.shortfall?
  | during _ inner => inner.shortfall?
  | _ => none

/-- The node's error behind a failure, where it was looked at. -/
def execution? : Failure → Option ExecutionError
  | execution e => some e
  | insufficientBalance s => s.reported
  | estimation inner => inner.execution?
  | during _ inner => inner.execution?
  | _ => none

/-- The sentences of the failures that a failure names as its cause, from the outside in. -/
def causes : Failure → List String
  | during _ inner => inner.message :: inner.causes
  | _ => []

/-- A node's error, told apart by whether it says that the sender cannot pay. -/
def ofNodeError (e : NodeError) : Failure :=
  let e := ExecutionError.ofNode e
  if e.isShortOfFunds then insufficientBalance ⟨none, some e⟩ else execution e

end Failure

/-- The error of a contract that a node's error carries. -/
def Revert.ofError? (e : ExecutionError) (interfaces : List Abi.Interface) : Option KnownError := do
  let payload ← (Hex.decodeLenient (← e.data)).toOption
  Revert.parse? payload interfaces

end TxCourier
