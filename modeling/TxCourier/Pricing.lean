import TxCourier.Session
import TxCourier.Settings

/-! # Prices

How a price is quoted from what the node says, and which quotes are refused. Where the head has a
base fee, the quote has a tip and a cap, which leaves room for the base fee to grow. A quote is
refused when the most that it pays does not reach a multiple of the base fee. -/
namespace TxCourier

/-- Where quotes come from. -/
abbrev QuoteSource := Attempt GasQuote

/-- What decides on a quote. -/
abbrev QuoteCheck := GasQuote → Attempt Unit

/-- Where gas limits come from. -/
abbrev GasEstimator := CallMessage → Attempt UInt64

namespace QuoteSource

/-- The quote for a base fee: the cap is the tip and a multiple of the base fee, as far as words
reach. -/
def overBaseFee (multiplier : UInt64) (baseFee tip : Word) : GasQuote :=
  .capped (some baseFee) tip
    (Word.saturatingAdd (Word.saturatingMul baseFee (Word.ofUInt64 multiplier)) tip)

def always (quote : GasQuote) : QuoteSource := pure quote

/-- The quote for the head of the chain. -/
def ofHead (multiplier : UInt64) : QuoteSource := do
  let head ← Attempt.ask .latestHeader
  match head.baseFee with
  | none =>
    let price ← Attempt.ask .gasPrice
    return .single price
  | some baseFee =>
    let tip ← Attempt.ask .tip
    return overBaseFee multiplier baseFee tip

end QuoteSource

/-- The least that a quote has to pay, as a multiple of the base fee. -/
structure FeeFloor where
  numerator : UInt64
  denominator : UInt64
deriving DecidableEq, Repr

namespace FeeFloor

/-- The ratio of two numbers; one stands in for a denominator of zero. -/
def ofRatio (numerator denominator : UInt64) : FeeFloor :=
  ⟨numerator, if denominator = 0 then 1 else denominator⟩

/-- The least price for a base fee: the product, as far as words reach, divided and rounded up. -/
def least (floor : FeeFloor) (baseFee : Word) : Word :=
  let product := (Word.saturatingMul baseFee (Word.ofUInt64 floor.numerator)).toNat
  let d := floor.denominator.toNat
  BitVec.ofNat 256 ((product + d - 1) / d)

/-- What is wrong with a quote, if the head has a certain base fee or none. -/
def fault? (floor : FeeFloor) (baseFee : Option Word) (quote : GasQuote) : Option PriceFault :=
  match quote, baseFee with
  | .single _, none => none
  | .single price, some baseFee =>
    if price.toNat < (floor.least baseFee).toNat then some .belowBaseFee else none
  | .capped .., none => some .notSupported
  | .capped _ _ cap, some baseFee =>
    if cap.toNat < (floor.least baseFee).toNat then some .capTooLow else none

/-- The decision on a quote by the head of the chain. -/
def check (floor : FeeFloor) : QuoteCheck := fun quote => do
  let head ← Attempt.ask .latestHeader
  match floor.fault? head.baseFee quote with
  | some fault => throw (.invalidPrice fault)
  | none => return ()

end FeeFloor

namespace GasEstimator

def always (limit : UInt64) : GasEstimator := fun _ => pure limit

/-- The estimate of the node. What it says instead of one is told apart. -/
def ofNode : GasEstimator := fun message => do
  match ← Session.ask (.estimate message) with
  | .ok limit => return limit
  | .error e => throw (Failure.ofNodeError e)

end GasEstimator

namespace PriceSettings

def quotes (s : PriceSettings) : QuoteSource := QuoteSource.ofHead s.multiplier

def floor (s : PriceSettings) : FeeFloor := FeeFloor.ofRatio s.numerator s.denominator

end PriceSettings

end TxCourier
