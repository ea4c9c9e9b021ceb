import TxCourier.Delivery
import TxCourier.Draft.Step

/-! # Couriers

A courier knows whom to ask about nonces, prices, gas limits and funds, and takes a call from there
to the node: it drafts the transaction, has it signed, shows it once more and sends it. What it asks
about a call without sending anything is the same but for the decision on the price. -/
namespace TxCourier

structure Courier where
  chainId : Word
  polling : Polling
  quotes : QuoteSource
  decide : Option QuoteCheck
  estimator : GasEstimator
  nonces : NonceSource
  funds : Option FundsCheck
  /-- Whether a call of a contract needs data. -/
  strict : Bool

/-- The last look at a signed transaction, which may hold it back. -/
abbrev Inspection := Envelope → Except String Unit

/-- A call: whom, with what data and how much money. -/
structure ContractCall where
  recipient : Address
  data : Bytes
  value : Word
  /-- Whether the recipient has to have code. -/
  toContract : Bool
deriving DecidableEq

namespace Courier

/-- The courier that asks the node about everything and does not look at funds. -/
def new (chainId : Word) : Courier where
  chainId
  polling := .default
  quotes := PriceSettings.default.quotes
  decide := some PriceSettings.default.floor.check
  estimator := GasEstimator.ofNode
  nonces := NonceSource.ofNode
  funds := none
  strict := true

/-- The courier that asks the node about everything, as some settings say. -/
def ofSettings (chainId : Word) (s : Settings) : Courier where
  chainId
  polling := ⟨s.waiting.attempts, s.waiting.pauseMillis⟩
  quotes := s.prices.quotes
  decide := some s.prices.floor.check
  estimator := GasEstimator.ofNode
  nonces := NonceSource.ofNode
  funds := some (Funds.check s.rules)
  strict := s.strict

/-- The steps that a call takes after its sender is known. The decision on the price is left out
where nothing is to be sent. -/
def steps (c : Courier) (call : ContractCall) (deciding : Bool) : List Draft.Step :=
  [.recipient (some call.recipient) call.toContract, .value call.value, .data call.data,
    .nonceFrom c.nonces, .quoteFrom c.quotes, .gasLimitFrom c.estimator]
  ++ (c.funds.toList.map Draft.Step.funds)
  ++ [.check c.strict (if deciding then c.decide else none)]

/-- The draft of a call from a sender. -/
def draft (c : Courier) (sender : Draft.Step) (call : ContractCall) (deciding : Bool) :
    Session Draft :=
  Draft.runAll (sender :: c.steps call deciding) (Draft.new c.chainId)

/-- The signed transaction. Whoever keeps the account sees the digest. -/
def signed (account : Account) (e : Envelope) : Attempt Envelope := do
  Attempt.record (.signed e.signingDigest)
  match account.signEnvelope e with
  | .ok e => return e
  | .error e => throw (.signing e.message)

/-- The last look at a transaction, where somebody takes it. -/
def inspect (inspection : Option Inspection) (e : Envelope) : Attempt Unit := do
  match inspection with
  | none => return ()
  | some look =>
    Attempt.record (.inspected e)
    match look e with
    | .ok _ => return ()
    | .error reason => throw (.heldBack reason)

/-- The transaction of a draft, signed by an account and sent unless that is not wanted. -/
def dispatch (account : Account) (d : Draft) (sending : Bool) (inspection : Option Inspection) :
    Attempt Envelope := do
  let e ← Attempt.ofExcept (d.setSender account.publicKey.address).assemble
  let e ← signed account e
  inspect inspection e
  if sending then
    let _ ← Delivery.submit e
  return e

/-- Drafts, signs and sends a call. -/
def deliver (c : Courier) (account : Account) (call : ContractCall) (sending : Bool)
    (inspection : Option Inspection) : Attempt Envelope := do
  let d ← c.draft (.senderOf account.publicKey) call true
  dispatch account d sending inspection

/-- The price and the gas limit that a call would have. -/
def estimate (c : Courier) (sender : Address) (call : ContractCall) :
    Attempt (GasQuote × UInt64) := do
  let d ← c.draft (.sender sender) call false
  if let some failure := d.failure then throw failure
  match d.quote, d.gasLimit with
  | some quote, some limit => return (quote, limit)
  | none, _ => throw (.missing .price)
  | some _, none => throw (.missing .gasLimit)

/-- Sends a call and waits until it is in a block with enough blocks on top. -/
def deliverAndAwait (c : Courier) (account : Account) (call : ContractCall)
    (inspection : Option Inspection) (confirmations : UInt64) (cancellation : Cancellation)
    (fuel : Nat) : Attempt (Envelope × Delivery.Outcome) := do
  let e ← c.deliver account call true inspection
  let outcome ← Delivery.await c.polling e.hash confirmations cancellation fuel
  return (e, outcome)

end Courier

end TxCourier
