import TxCourier.Account
import TxCourier.Gas.Quote
import TxCourier.Failure

/-! # Drafts

A transaction while it is put together. The first step that fails leaves its failure in the draft,
and no later step changes anything. -/
namespace TxCourier

structure Draft where
  chainId : Word
  sender : Option Address
  recipient : Option Address
  /-- Whether the recipient has to have code. -/
  mustBeContract : Bool
  data : Bytes
  value : Word
  nonce : Option UInt64
  quote : Option GasQuote
  gasLimit : Option UInt64
  failure : Option Failure
deriving DecidableEq

namespace Draft

def new (chainId : Word) : Draft :=
  ⟨chainId, none, none, false, [], 0, none, none, none, none⟩

/-- A change of a draft in which nothing has failed yet. -/
def update (change : Draft → Draft) (d : Draft) : Draft :=
  if d.failure.isSome then d else change d

def setSender (a : Address) : Draft → Draft := update fun d => { d with sender := some a }

/-- No recipient means that a contract is created. -/
def setRecipient (recipient : Option Address) (mustBeContract : Bool) : Draft → Draft :=
  update fun d => { d with recipient, mustBeContract }

def setData (data : Bytes) : Draft → Draft := update fun d => { d with data }

def setValue (value : Word) : Draft → Draft := update fun d => { d with value }

def setNonce (nonce : UInt64) : Draft → Draft := update fun d => { d with nonce := some nonce }

def setQuote (quote : GasQuote) : Draft → Draft := update fun d => { d with quote := some quote }

def setGasLimit (limit : UInt64) : Draft → Draft :=
  update fun d => { d with gasLimit := some limit }

/-! ## What a step needs -/

/-- What a draft has, or the failure that it is missing. -/
def orMissing {α : Type} (what : Requirement) : Option α → Except Failure α
  | some a => .ok a
  | none => .error (.missing what)

def requireSender (d : Draft) : Except Failure Address := orMissing .sender d.sender

/-- A quote is of use only when there is a sender. -/
def requireQuote (d : Draft) : Except Failure GasQuote := do
  let _ ← d.requireSender
  orMissing .price d.quote

def requireNonce (d : Draft) : Except Failure UInt64 := do
  let _ ← d.requireQuote
  orMissing .nonce d.nonce

def requireGasLimit (d : Draft) : Except Failure UInt64 := do
  let _ ← d.requireNonce
  orMissing .gasLimit d.gasLimit

/-- The message by which gas is estimated. -/
def message (d : Draft) : CallMessage :=
  let m := CallMessage.unpriced (d.sender.getD Address.zero) d.recipient d.data d.value
  match d.quote with
  | some quote => m.withQuote quote
  | none => m

/-! ## The transaction -/

/-- An envelope with the price of a quote, if the type has that kind of price. -/
def priced? (quote : GasQuote) (e : Envelope) : Option Envelope :=
  match quote with
  | .single price => e.setGasPrice? price
  | .capped _ tip cap => (e.setTip? tip).bind (Envelope.setFeeCap? cap)

/-- The unsigned transaction of a type, the failure of a step, or what is missing. -/
def assembleAs (t : TxType) (d : Draft) : Except Failure Envelope := do
  if let some failure := d.failure then throw failure
  let quote ← d.requireQuote
  let nonce ← d.requireNonce
  let limit ← d.requireGasLimit
  match priced? quote (Envelope.new t d.chainId) with
  | none => throw (.missing (if t.isDynamicFee then .cappedPrice else .singlePrice))
  | some e => return ((((e.setRecipient d.recipient).setValue d.value).setData d.data).setNonce
      nonce).setGas limit

/-- The type that goes with the quote. -/
def type (d : Draft) : TxType :=
  if d.quote.any GasQuote.isDynamic then .dynamicFee else .legacy

def assemble (d : Draft) : Except Failure Envelope := d.assembleAs d.type

end Draft

end TxCourier
