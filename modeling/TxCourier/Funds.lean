import TxCourier.Session
import TxCourier.Gas.Intrinsic

/-! # Nonces and funds

What is asked about a sender: which nonce comes next, and whether there is money for what the
transaction costs before it is executed. A cost that does not fit is not held against the
sender. -/
namespace TxCourier

/-- Where nonces come from; the flag asks to count transactions that are not in a block yet. -/
abbrev NonceSource := Address → Bool → Attempt UInt64

/-- What decides on the funds of a sender: the sender, the data, the recipient and the quote. -/
abbrev FundsCheck := Address → Bytes → Option Address → Option GasQuote → Attempt Unit

namespace NonceSource

def always (nonce : UInt64) : NonceSource := fun _ _ => pure nonce

/-- The nonce that the node counts. -/
def ofNode : NonceSource := fun account pending =>
  if pending then Attempt.ask (.pendingNonce account) else Attempt.ask (.nonce account none)

end NonceSource

namespace Funds

/-- The price of the intrinsic gas at the most that a quote pays, if both fit. -/
def cost? (rules : IntrinsicRules) (data : Bytes) (isCreation : Bool) (quote : GasQuote) :
    Option Word := do
  let gas ← IntrinsicGas.charged? rules ⟨data, none, none, isCreation⟩
  Word.checkedMul (Word.ofUInt64 gas) quote.ceiling

/-- Whether a balance is above zero and covers the cost where there is one. -/
def covers (rules : IntrinsicRules) (balance : Word) (data : Bytes) (isCreation : Bool)
    (quote : Option GasQuote) : Bool :=
  if balance = 0 then false
  else
    match quote.bind (cost? rules data isCreation) with
    | some cost => cost.toNat ≤ balance.toNat
    | none => true

/-- The decision by the balance that the node tells. -/
def check (rules : IntrinsicRules) : FundsCheck := fun sender data recipient quote => do
  let balance ← Attempt.ask (.balance sender none)
  if covers rules balance data recipient.isNone quote then return ()
  else throw (.insufficientBalance ⟨some balance, none⟩)

end Funds

end TxCourier
