import TxCourier.Envelope.Encoding
import TxCourier.Session

/-! # Delivery

Sending a signed transaction, and waiting until it is in a block with enough blocks on top. The
receipt is asked for a bounded number of times. The head is asked for as often as it takes, so that
part of the wait has explicit fuel. -/
namespace TxCourier

/-- How often receipts are asked for, and the milliseconds between two questions. -/
structure Polling where
  attempts : UInt32
  pause : Nat
deriving DecidableEq, Repr

namespace Polling

def default : Polling := ⟨10, 3000⟩

end Polling

namespace Delivery

/-- What is wrong with the answer to a transaction that was sent, if anything is. -/
def objection? (expected : Hash) : Except NodeError Hash → Option NodeError
  | .ok reported => if reported = expected then none else some (.hashMismatch expected reported)
  | .error e => some e

/-- Hands a transaction to the node, which has to report its hash. -/
def submit (e : Envelope) : Attempt Hash := do
  let answer ← Session.ask (.send e.wire)
  match objection? e.hash answer with
  | some cause => throw (.rejected ⟨e, cause⟩)
  | none => return e.hash

/-- How a wait ends that does not fail. -/
inductive Outcome where
  /-- No receipt could be had. -/
  | missing
  | confirmed (receipt : Receipt)
  /-- The fuel was used up before there were enough blocks. -/
  | unfinished
deriving DecidableEq

/-- The first receipt among so many answers, with a pause between two questions. -/
def firstReceipt (hash : Hash) (pause : Nat) (c : Cancellation) : Nat → Attempt (Option Receipt)
  | 0 => return none
  | left + 1 => do
    let answer : Option Receipt ← Attempt.askUnless c (.receipt hash)
    match answer with
    | some receipt => return some receipt
    | none =>
      if left = 0 then return none
      else
        Attempt.pauseUnless c pause
        firstReceipt hash pause c left

/-- The blocks on top of a block. -/
def depth (block head : UInt64) : Nat := head.toNat - block.toNat

/-- Whether enough blocks were on top of a block before the fuel was used up. -/
def isBuried (block confirmations : UInt64) (pause : Nat) (c : Cancellation) : Nat → Attempt Bool
  | 0 => return false
  | fuel + 1 => do
    let head : UInt64 ← Attempt.askUnless c .blockNumber
    if confirmations.toNat ≤ depth block head then return true
    else
      Attempt.pauseUnless c pause
      isBuried block confirmations pause c fuel

/-- Waits for the receipt of a transaction and for blocks on top of its block. -/
def await (polling : Polling) (hash : Hash) (confirmations : UInt64) (c : Cancellation)
    (fuel : Nat) : Attempt Outcome := do
  match ← firstReceipt hash polling.pause c polling.attempts.toNat with
  | none => return .missing
  | some receipt =>
    if !receipt.succeeded then throw (.receiptFailed hash)
    else if confirmations = 0 then return .confirmed receipt
    else
      match receipt.blockNumber with
      | none => throw (.receiptWithoutBlock hash)
      | some block =>
        if ← isBuried block confirmations polling.pause c fuel then return .confirmed receipt
        else return .unfinished

end Delivery

end TxCourier
