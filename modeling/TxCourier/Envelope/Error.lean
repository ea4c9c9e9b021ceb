import TxCourier.Word

/-! # Why a transaction is refused

The causes for which a transaction cannot be read, converted or attributed to a sender, and the
sentence for each. -/
namespace TxCourier

/-- What is wrong with encoded bytes. -/
inductive EncodingFault where
  | malformed
  | trailing (count : Nat)
  | reported (reason : String)
deriving DecidableEq, Repr

def EncodingFault.message : EncodingFault → String
  | malformed => "malformed encoding"
  | trailing count => count.repr ++ " trailing bytes after transaction"
  | reported reason => reason

/-- What is wrong with a signature. -/
inductive SignatureFault where
  | unsigned
  | foreignChain (v chainId : Word)
  | notAParity (v : Word)
  | unrecoverable
  | reported (reason : String)
deriving DecidableEq, Repr

def SignatureFault.message : SignatureFault → String
  | unsigned => "transaction is not signed"
  | foreignChain v chainId => "v " ++ v.decimal ++ " does not match chain id " ++ chainId.decimal
  | notAParity v => "v " ++ v.decimal ++ " is not a valid parity"
  | unrecoverable => "signature error"
  | reported reason => reason

inductive EnvelopeError where
  | unsupportedType (code : Nat)
  | undecodable (fault : EncodingFault)
  /-- A field does not fit the canonical transaction. -/
  | fieldOverflow (field : String)
  | missingField (field : String)
  /-- A text is no JSON transaction object. -/
  | json (reason : String)
  | invalidSignature (fault : SignatureFault)
deriving DecidableEq, Repr

def EnvelopeError.message : EnvelopeError → String
  | unsupportedType code => "transaction type not supported: " ++ code.repr
  | undecodable fault => "failed to decode transaction: " ++ fault.message
  | fieldOverflow field => field ++ " is out of range for the generic transaction"
  | missingField field => "missing required transaction field: " ++ field
  | json reason => "invalid transaction json: " ++ reason
  | invalidSignature fault => "invalid signature: " ++ fault.message

end TxCourier
