import TxCourier.Bytes.Basic

/-! # Transaction types

The five types of a transaction and their codes. The code of every type but the oldest stands in
front of the encoded fields. -/
namespace TxCourier

inductive TxType where
  | legacy
  | accessList
  | dynamicFee
  | blob
  | setCode
deriving DecidableEq, Repr

namespace TxType

def code : TxType → UInt8
  | legacy => 0
  | accessList => 1
  | dynamicFee => 2
  | blob => 3
  | setCode => 4

def ofCode? (n : Nat) : Option TxType :=
  match n with
  | 0 => some legacy
  | 1 => some accessList
  | 2 => some dynamicFee
  | 3 => some blob
  | 4 => some setCode
  | _ => none

def name : TxType → String
  | legacy => "Legacy"
  | accessList => "AccessList"
  | dynamicFee => "DynamicFee"
  | blob => "Blob"
  | setCode => "SetCode"

def all : List TxType := [legacy, accessList, dynamicFee, blob, setCode]

/-- Priced with a tip and a cap on the whole fee. -/
def isDynamicFee : TxType → Bool
  | dynamicFee | blob | setCode => true
  | legacy | accessList => false

/-- Encoded behind its code. -/
def isTyped : TxType → Bool
  | legacy => false
  | _ => true

/-- Cannot create a contract, and so always has a recipient. -/
def needsRecipient : TxType → Bool
  | blob | setCode => true
  | legacy | accessList | dynamicFee => false

theorem isTyped_iff {t : TxType} : t.isTyped = true ↔ t ≠ legacy := by
  cases t <;> simp [isTyped]

theorem isTyped_eq_false_iff {t : TxType} : t.isTyped = false ↔ t = legacy := by
  cases t <;> simp [isTyped]

theorem ofCode?_code (t : TxType) : ofCode? t.code.toNat = some t := by
  cases t <;> rfl

theorem code_of_ofCode? {n : Nat} {t : TxType} (found : ofCode? n = some t) :
    t.code.toNat = n := by
  unfold ofCode? at found
  split at found <;> cases found <;> rfl

end TxType

end TxCourier
