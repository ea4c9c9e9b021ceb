import TxCourier.Json.Reader

/-! # Gas quotes and call messages

A quote prices gas in one of two ways: with a single price, or with a tip and a cap, beside the base
fee they were derived from where it is known. A call message is a transaction as far as a node needs
it to say what it would cost. -/
namespace TxCourier

inductive GasQuote where
  | single (price : Word)
  | capped (baseFee : Option Word) (tip cap : Word)
deriving DecidableEq, Repr

namespace GasQuote

def isDynamic : GasQuote → Bool
  | single _ => false
  | capped .. => true

/-- The most that a unit of gas may cost. -/
def ceiling : GasQuote → Word
  | single price => price
  | capped _ _ cap => cap

def toJson : GasQuote → Json
  | single price => .mk [("kind", .ofString "legacy"), ("gas_price", .ofWord price)]
  | capped baseFee tip cap =>
    .mk [("kind", .ofString "dynamic"), ("base_fee", .ofOption Json.ofWord baseFee),
      ("max_priority_fee_per_gas", .ofWord tip), ("max_fee_per_gas", .ofWord cap)]

/-- A quote is held until its kind is known, so all of it has to stand for something. -/
def ofJson? (v : Json) : Option GasQuote := do
  if !v.isDefinite Json.depthLimit then none
  else
    let (kind, rest) ← v.tagged? "kind"
    match kind with
    | "legacy" =>
      let r ← rest.record? ["gas_price"]
      return .single (← r.required "gas_price" Json.word?)
    | "dynamic" =>
      let r ← rest.record? ["base_fee", "max_priority_fee_per_gas", "max_fee_per_gas"]
      return .capped (← r.nullable "base_fee" Json.word?)
        (← r.required "max_priority_fee_per_gas" Json.word?)
        (← r.required "max_fee_per_gas" Json.word?)
    | _ => none

end GasQuote

structure CallMessage where
  sender : Address
  recipient : Option Address
  data : Bytes
  value : Word
  gasPrice : Option Word
  tip : Option Word
  cap : Option Word
deriving DecidableEq

namespace CallMessage

/-- A message without a price. -/
def unpriced (sender : Address) (recipient : Option Address) (data : Bytes) (value : Word) :
    CallMessage :=
  ⟨sender, recipient, data, value, none, none, none⟩

/-- The message priced by a quote, and in no other way. -/
def withQuote (quote : GasQuote) (m : CallMessage) : CallMessage :=
  match quote with
  | .single price => { m with gasPrice := some price, tip := none, cap := none }
  | .capped _ tip cap => { m with gasPrice := none, tip := some tip, cap := some cap }

end CallMessage

end TxCourier
