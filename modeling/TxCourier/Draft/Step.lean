import TxCourier.Draft.Basic
import TxCourier.Funds
import TxCourier.Pricing

/-! # Steps of a draft

A step sets a part of a draft or asks someone for it, or checks what is there. Asking may fail, and
so may checking. -/
namespace TxCourier

namespace Draft

inductive Step where
  | sender (a : Address)
  /-- The sender is the owner of a key. -/
  | senderOf (key : PublicKey)
  | recipient (whom : Option Address) (mustBeContract : Bool)
  | data (data : Bytes)
  | value (value : Word)
  | nonce (nonce : UInt64)
  | nonceFrom (source : NonceSource)
  | quote (quote : GasQuote)
  | quoteFrom (source : QuoteSource)
  | gasLimit (limit : UInt64)
  | gasLimitFrom (estimator : GasEstimator)
  | funds (check : FundsCheck)
  /-- A look at the code of the recipient, and a decision on the quote where somebody makes one.
  A strict look asks for the code in any case, and refuses to call a contract with no data. -/
  | check (strict : Bool) (decide : Option QuoteCheck)

/-- The step in the course of which a nonce is asked for. -/
def askingNonce : String := "failed to get nonce from chain"

def checkRecipient (strict : Bool) (d : Draft) : Attempt Unit := do
  match d.recipient with
  | none => return ()
  | some whom =>
    if d.mustBeContract || strict then
      let code ← Attempt.ask (.pendingCode whom)
      if d.mustBeContract && code.isEmpty then throw .noCode
      if strict && !code.isEmpty && d.data.isEmpty then throw .emptyCall

def checkQuote (decide : QuoteCheck) (d : Draft) : Attempt Unit := do
  decide (← Attempt.ofExcept d.requireQuote)

namespace Step

/-- The draft after a step, if nothing failed before. -/
def attempt (d : Draft) : Step → Attempt Draft
  | sender a => return d.setSender a
  | senderOf key => return d.setSender key.address
  | recipient whom mustBeContract => return d.setRecipient whom mustBeContract
  | data b => return d.setData b
  | value v => return d.setValue v
  | nonce n => return d.setNonce n
  | nonceFrom source => do
    let owner ← Attempt.ofExcept d.requireSender
    return d.setNonce (← Attempt.wrapping (.during askingNonce) (source owner true))
  | quote q => return d.setQuote q
  | quoteFrom source => return d.setQuote (← source)
  | gasLimit limit => return d.setGasLimit limit
  | gasLimitFrom estimator => do
    let _ ← Attempt.ofExcept d.requireNonce
    return d.setGasLimit (← Attempt.wrapping .estimation (estimator d.message))
  | funds covered => do
    let payer ← Attempt.ofExcept d.requireSender
    covered payer d.data d.recipient d.quote
    return d
  | check strict decide => do
    d.checkRecipient strict
    if let some decide := decide then d.checkQuote decide
    return d

/-- The draft after a step. -/
def run (step : Step) (d : Draft) : Session Draft :=
  if d.failure.isSome then return d
  else do
    match ← (step.attempt d).run with
    | .ok d => return d
    | .error failure => return { d with failure := some failure }

end Step

/-- The draft after some steps. -/
def runAll : List Step → Draft → Session Draft
  | [], d => return d
  | step :: rest, d => do runAll rest (← step.run d)

end Draft

end TxCourier
