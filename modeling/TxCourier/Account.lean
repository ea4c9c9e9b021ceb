import TxCourier.Bytes.Hex
import TxCourier.Envelope.Signing
import TxCourier.Secret

/-! # Accounts

An account has a public key and answers a digest with a signature, with the statement that it only
looked at it, or with a failure. Two accounts are given here: one that holds a private key and one
that signs nothing. -/
namespace TxCourier

namespace Address

/-- The address in mixed case: a letter is a capital where the digest of the lower-case digits has a
high digit. -/
def checksummed (a : Address) : String :=
  let cs := Hex.digits a.toList
  let marks := Hex.digits (keccak256 (cs.map fun c => c.toNat.toUInt8)).toList
  "0x" ++ String.ofList ((cs.zip marks).map fun (c, m) =>
    if 8 ≤ (Hex.value? m).getD 0 then c.toUpper else c)

end Address

inductive AccountError where
  | signingFailed (reason : String)
  | emptyKey
  | badKey
deriving DecidableEq, Repr

namespace AccountError

def message : AccountError → String
  | signingFailed reason => "Signing failed: " ++ reason
  | emptyKey => "Invalid key: private key is empty"
  | badKey => "Invalid key: not a secp256k1 private key"

end AccountError

structure Account where
  publicKey : PublicKey
  sign : Hash → Except AccountError SignOutcome

namespace SecretKey

def ofNat? (n : Nat) : Option SecretKey :=
  if h : 0 < n ∧ n < Secp256k1.n then some ⟨n, h.1, h.2⟩ else none

/-- A key from 64 hexadecimal digits, with a prefix or without one and with blanks around it. -/
def ofSecret (s : Secret) : Except AccountError SecretKey :=
  if s.isEmpty then .error .emptyKey
  else
    let digits := Hex.afterPrefix (Text.trim s.exposed.toList)
    match (Hex.bytes? digits).bind fun b => (FixedBytes.ofList? b : Option (FixedBytes 32)) with
    | none => .error .badKey
    | some b =>
      match ofNat? b.toNat with
      | some key => .ok key
      | none => .error .badKey

end SecretKey

namespace Account

def address (a : Account) : Address := a.publicKey.address

/-- The account that signs with a key it holds. -/
def holding (key : SecretKey) : Account where
  publicKey := key.publicKey
  sign digest :=
    match Ecdsa.sign? key digest with
    | some sig => .ok (.signature sig)
    | none => .error (.signingFailed "signature error")

/-- The account that looks at digests and signs none. -/
def observing (publicKey : PublicKey) : Account where
  publicKey
  sign _ := .ok .noSignature

/-- The envelope with the outcome of signing its digest. -/
def signEnvelope (a : Account) (e : Envelope) : Except AccountError Envelope := do
  let outcome ← a.sign e.signingDigest
  return e.applySignature outcome

end Account

end TxCourier
