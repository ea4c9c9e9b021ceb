import TxCourier.Envelope.TxType
import TxCourier.Word

/-! # What belongs to one type only

The pricing of a transaction and the lists that only some types carry, so that a field exists
exactly on the types that define it. -/
namespace TxCourier

/-- An account and the storage cells of it that a transaction announces. -/
structure AccessEntry where
  address : Address
  storageKeys : List Hash
deriving DecidableEq

abbrev AccessList := List AccessEntry

/-- A signed permission to run the code of an address in the name of the signer. -/
structure Authorization where
  chainId : Word
  address : Address
  nonce : UInt64
  yParity : UInt8
  r : Word
  s : Word
deriving DecidableEq

/-- One blob of data. -/
abbrev Blob := FixedBytes 131072

/-- A commitment to a blob, or a proof about one. -/
abbrev Proof48 := FixedBytes 48

/-- The blobs that travel with a transaction but do not belong to what is signed. -/
structure Sidecar where
  blobs : List Blob
  commitments : List Proof48
  proofs : List Proof48
deriving DecidableEq

/-- The most that is paid to the proposer and the most that is paid in all, for a unit of gas. -/
structure FeeCaps where
  tip : Word
  cap : Word
deriving DecidableEq

inductive Fields where
  | legacy (gasPrice : Word)
  | accessList (gasPrice : Word) (list : AccessList)
  | dynamicFee (fees : FeeCaps) (list : AccessList)
  | blob (fees : FeeCaps) (list : AccessList) (blobFeeCap : Word) (blobHashes : List Hash)
      (sidecar : Option Sidecar)
  | setCode (fees : FeeCaps) (list : AccessList) (authorizations : List Authorization)
deriving DecidableEq

namespace Fields

def type : Fields → TxType
  | legacy .. => .legacy
  | accessList .. => .accessList
  | dynamicFee .. => .dynamicFee
  | blob .. => .blob
  | setCode .. => .setCode

/-- Zero prices and empty lists. -/
def empty : TxType → Fields
  | .legacy => legacy 0
  | .accessList => accessList 0 []
  | .dynamicFee => dynamicFee ⟨0, 0⟩ []
  | .blob => blob ⟨0, 0⟩ [] 0 [] none
  | .setCode => setCode ⟨0, 0⟩ [] []

@[simp] theorem type_empty (t : TxType) : (empty t).type = t := by cases t <;> rfl

def gasPrice? : Fields → Option Word
  | legacy price | accessList price _ => some price
  | _ => none

def feeCaps? : Fields → Option FeeCaps
  | dynamicFee fees _ | blob fees .. | setCode fees .. => some fees
  | legacy _ | accessList .. => none

def accessList? : Fields → Option AccessList
  | legacy _ => none
  | accessList _ list | dynamicFee _ list | blob _ list .. | setCode _ list _ => some list

def blobFeeCap? : Fields → Option Word
  | blob _ _ cap _ _ => some cap
  | _ => none

def blobHashes? : Fields → Option (List Hash)
  | blob _ _ _ hashes _ => some hashes
  | _ => none

def sidecar? : Fields → Option Sidecar
  | blob _ _ _ _ sidecar => sidecar
  | _ => none

def authorizations? : Fields → Option (List Authorization)
  | setCode _ _ list => some list
  | _ => none

/-- The fields with another gas price, on the types that have one. -/
def withGasPrice? (price : Word) : Fields → Option Fields
  | legacy _ => some (legacy price)
  | accessList _ list => some (accessList price list)
  | _ => none

/-- The fields with other fee caps, on the types that have them. -/
def mapFeeCaps? (change : FeeCaps → FeeCaps) : Fields → Option Fields
  | dynamicFee fees list => some (dynamicFee (change fees) list)
  | blob fees list cap hashes sidecar => some (blob (change fees) list cap hashes sidecar)
  | setCode fees list auths => some (setCode (change fees) list auths)
  | legacy _ | accessList .. => none

def withTip? (tip : Word) : Fields → Option Fields := mapFeeCaps? fun fees => { fees with tip }

def withFeeCap? (cap : Word) : Fields → Option Fields := mapFeeCaps? fun fees => { fees with cap }

def withAccessList? (list : AccessList) : Fields → Option Fields
  | legacy _ => none
  | accessList price _ => some (accessList price list)
  | dynamicFee fees _ => some (dynamicFee fees list)
  | blob fees _ cap hashes sidecar => some (blob fees list cap hashes sidecar)
  | setCode fees _ auths => some (setCode fees list auths)

def withBlobFeeCap? (cap : Word) : Fields → Option Fields
  | blob fees list _ hashes sidecar => some (blob fees list cap hashes sidecar)
  | _ => none

def withBlobHashes? (hashes : List Hash) : Fields → Option Fields
  | blob fees list cap _ sidecar => some (blob fees list cap hashes sidecar)
  | _ => none

def withSidecar? (sidecar : Option Sidecar) : Fields → Option Fields
  | blob fees list cap hashes _ => some (blob fees list cap hashes sidecar)
  | _ => none

def withAuthorizations? (auths : List Authorization) : Fields → Option Fields
  | setCode fees list _ => some (setCode fees list auths)
  | _ => none

end Fields

end TxCourier
