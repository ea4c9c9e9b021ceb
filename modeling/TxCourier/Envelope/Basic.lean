import TxCourier.Envelope.Fields

/-! # Envelopes

One transaction of any type, signed or not. What every type has stands on the envelope itself and
the rest in `Fields`. An envelope whose type cannot create contracts always has a recipient; the
type says so, and every setter keeps it. -/
namespace TxCourier

/-- A signature as it is stored. On the oldest type `v` also tells the chain; on the others it is
the parity. Zero throughout means that there is none. -/
structure RawSignature where
  v : Word
  r : Word
  s : Word
deriving DecidableEq

namespace RawSignature

def empty : RawSignature := ⟨0, 0, 0⟩

def isEmpty (sig : RawSignature) : Bool := sig.v = 0 ∧ sig.r = 0 ∧ sig.s = 0

/-- The form in which an unsigned transaction of the oldest type tells its chain. -/
def isUnsignedMarker (sig : RawSignature) : Bool := sig.v ≠ 0 ∧ sig.r = 1 ∧ sig.s = 1

end RawSignature

/-- The recipient as a type allows it: the zero address stands in where one is needed. -/
def TxType.recipient (t : TxType) (recipient : Option Address) : Option Address :=
  if t.needsRecipient then some (recipient.getD Address.zero) else recipient

theorem TxType.recipient_isSome {t : TxType} {recipient : Option Address}
    (h : t.needsRecipient = true) : (t.recipient recipient).isSome = true := by
  simp [TxType.recipient, h]

structure Envelope where
  chainId : Word
  nonce : UInt64
  gas : UInt64
  recipient : Option Address
  value : Word
  data : Bytes
  fields : Fields
  signature : RawSignature
  recipient_isSome : fields.type.needsRecipient = true → recipient.isSome = true
deriving DecidableEq

namespace Envelope

def type (e : Envelope) : TxType := e.fields.type

/-- An unsigned envelope around some fields; all else is zero. -/
def ofFields (chainId : Word) (fields : Fields) : Envelope :=
  { chainId, nonce := 0, gas := 0, recipient := fields.type.recipient none, value := 0, data := [],
    fields, signature := .empty, recipient_isSome := TxType.recipient_isSome }

/-- The empty, unsigned envelope of a type. -/
def new (t : TxType) (chainId : Word) : Envelope := ofFields chainId (Fields.empty t)

def setChainId (chainId : Word) (e : Envelope) : Envelope := { e with chainId }

def setNonce (nonce : UInt64) (e : Envelope) : Envelope := { e with nonce }

def setGas (gas : UInt64) (e : Envelope) : Envelope := { e with gas }

def setValue (value : Word) (e : Envelope) : Envelope := { e with value }

def setData (data : Bytes) (e : Envelope) : Envelope := { e with data }

def setSignature (signature : RawSignature) (e : Envelope) : Envelope := { e with signature }

/-- No recipient means that a contract is created, and the zero address where that cannot be. -/
def setRecipient (recipient : Option Address) (e : Envelope) : Envelope :=
  { e with
    recipient := e.fields.type.recipient recipient,
    recipient_isSome := TxType.recipient_isSome }

/-- Other fields in the place of the present ones, with the recipient as their type allows it. -/
def setFields (fields : Fields) (e : Envelope) : Envelope :=
  { e with
    fields, recipient := fields.type.recipient e.recipient,
    recipient_isSome := TxType.recipient_isSome }

/-- A change of the fields, where the type has what the change is about. -/
def changeFields? (change : Fields → Option Fields) (e : Envelope) : Option Envelope :=
  (change e.fields).map fun fields => e.setFields fields

def setGasPrice? (price : Word) : Envelope → Option Envelope :=
  changeFields? (Fields.withGasPrice? price)

def setTip? (tip : Word) : Envelope → Option Envelope := changeFields? (Fields.withTip? tip)

def setFeeCap? (cap : Word) : Envelope → Option Envelope := changeFields? (Fields.withFeeCap? cap)

def setAccessList? (list : AccessList) : Envelope → Option Envelope :=
  changeFields? (Fields.withAccessList? list)

def setBlobFeeCap? (cap : Word) : Envelope → Option Envelope :=
  changeFields? (Fields.withBlobFeeCap? cap)

def setBlobHashes? (hashes : List Hash) : Envelope → Option Envelope :=
  changeFields? (Fields.withBlobHashes? hashes)

def setSidecar? (sidecar : Option Sidecar) : Envelope → Option Envelope :=
  changeFields? (Fields.withSidecar? sidecar)

def setAuthorizations? (auths : List Authorization) : Envelope → Option Envelope :=
  changeFields? (Fields.withAuthorizations? auths)

/-- The recipient of an envelope is as its type allows it. -/
theorem recipient_eq (e : Envelope) : e.fields.type.recipient e.recipient = e.recipient := by
  unfold TxType.recipient
  split
  · rename_i needs
    cases recipient : e.recipient with
    | none => simpa [recipient] using e.recipient_isSome needs
    | some a => rfl
  · rfl

end Envelope

end TxCourier
