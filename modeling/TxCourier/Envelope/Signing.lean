import TxCourier.Envelope.Encoding
import TxCourier.Envelope.Error
import TxCourier.Curve.Ecdsa

/-! # Signatures on envelopes

How the parity of a signature is stored and found again, what is stored when nobody signed, and
who signed. -/
namespace TxCourier

/-- What a signer makes of a digest. -/
inductive SignOutcome where
  | signature (sig : Signature)
  /-- The digest was seen and not signed. -/
  | noSignature
deriving DecidableEq

/-- The stored `v` for a parity, which may be given as zero or one or raised by 27. The oldest type
stores the parity plus 35 plus twice the chain, modulo `2 ^ 256`. -/
def storedV (v : UInt64) (chainId : Word) (isLegacy : Bool) : Word :=
  let parity := Word.ofUInt64 (if 27 ≤ v then v - 27 else v)
  if isLegacy then parity + 35 + chainId * 2 else parity

/-- The address whose signature of a digest this is. -/
def Signature.signer (sig : Signature) (digest : Hash) : Except EnvelopeError Address :=
  match Ecdsa.recover? sig digest with
  | some key => .ok key.address
  | none => .error (.invalidSignature .unrecoverable)

namespace Envelope

/-- The stored form of a signature, or of its absence: on the oldest type a marker that tells the
chain, on the others nothing. -/
def applySignature (outcome : SignOutcome) (e : Envelope) : Envelope :=
  let isLegacy := !e.type.isTyped
  e.setSignature <|
    match outcome with
    | .signature sig => ⟨storedV (if sig.parity then 1 else 0) e.chainId isLegacy, sig.r, sig.s⟩
    | .noSignature => if isLegacy then ⟨storedV 27 e.chainId true, 1, 1⟩ else .empty

/-- What `v` adds to the parity: nothing on the types that are told by a code. -/
def parityOffset (e : Envelope) : Word :=
  if e.type.isTyped ∨ e.signature.v = 0 then 0
  else if isChainless e.signature.v then 27
  else 35 + e.chainId * 2

/-- The parity that is stored in `v`. -/
def yParity (e : Envelope) : Except EnvelopeError Bool :=
  match Word.checkedSub e.signature.v e.parityOffset with
  | none => .error (.invalidSignature (.foreignChain e.signature.v e.chainId))
  | some parity =>
    if parity = 0 then .ok false
    else if parity = 1 then .ok true
    else .error (.invalidSignature (.notAParity e.signature.v))

/-- The address that signed the envelope. -/
def sender (e : Envelope) : Except EnvelopeError Address :=
  if e.signature.isEmpty then .error (.invalidSignature .unsigned)
  else do
    let parity ← e.yParity
    Signature.signer ⟨e.signature.r, e.signature.s, parity⟩ e.signingDigest

end Envelope

end TxCourier
