import TxCourier.Envelope.Fields
import TxCourier.Json.Reader

/-! # Intrinsic gas

What a transaction costs before anything is executed: a base, a price for each byte of the data and
for each word of code to be installed, and prices for declared addresses, storage keys and
authorizations. The sum is formed in 64 bits, and there is none where it does not fit. -/
namespace TxCourier

/-- The rules of the ledger that change the cost. -/
structure IntrinsicRules where
  /-- Creating a contract has a higher base. -/
  homestead : Bool
  /-- A byte other than zero costs less. -/
  istanbul : Bool
  /-- Code to be installed is paid for by the word. -/
  shanghai : Bool
deriving DecidableEq, Repr

namespace IntrinsicRules

/-- All rules in force. -/
def all : IntrinsicRules := ⟨true, true, true⟩

def toJson (rules : IntrinsicRules) : Json :=
  .mk [("homestead", .bool rules.homestead), ("istanbul", .bool rules.istanbul),
    ("shanghai", .bool rules.shanghai)]

def ofJson? (v : Json) : Option IntrinsicRules := do
  let r ← v.record? ["homestead", "istanbul", "shanghai"]
  return ⟨← r.required "homestead" Json.bool?, ← r.required "istanbul" Json.bool?,
    ← r.required "shanghai" Json.bool?⟩

end IntrinsicRules

namespace IntrinsicGas

/-- What the cost of a transaction depends on. -/
structure Subject where
  data : Bytes
  accessList : Option AccessList
  authorizations : Option (List Authorization)
  isCreation : Bool

def base (rules : IntrinsicRules) (isCreation : Bool) : Nat :=
  if isCreation ∧ rules.homestead then 53000 else 21000

/-- The price of a byte other than zero. -/
def nonzeroPrice (rules : IntrinsicRules) : Nat := if rules.istanbul then 16 else 68

def zeroPrice : Nat := 4

/-- The price of a word of code to be installed. -/
def codeWordPrice : Nat := 2

def accessEntryPrice : Nat := 2400

def storageKeyPrice : Nat := 1900

def authorizationPrice : Nat := 25000

def zeros (data : Bytes) : Nat := data.countP fun x => x == 0

def nonzeros (data : Bytes) : Nat := data.countP fun x => x != 0

/-- The words that some bytes fill, the last perhaps in part. -/
def words (data : Bytes) : Nat := (data.length + 31) / 32

def storageKeys (list : AccessList) : Nat := (list.flatMap AccessEntry.storageKeys).length

/-- The exact cost. -/
def exact (rules : IntrinsicRules) (s : Subject) : Nat :=
  base rules s.isCreation
    + nonzeros s.data * nonzeroPrice rules
    + zeros s.data * zeroPrice
    + (if s.isCreation ∧ rules.shanghai then words s.data * codeWordPrice else 0)
    + (s.accessList.getD []).length * accessEntryPrice
    + storageKeys (s.accessList.getD []) * storageKeyPrice
    + (s.authorizations.getD []).length * authorizationPrice

/-- Some gas and the price of a number of things, if both the price and the sum fit in 64 bits. -/
def charge? (count price : Nat) (gas : UInt64) : Option UInt64 :=
  if count * price < UInt64.size then
    let sum := gas.toNat + count * price
    if sum < UInt64.size then some (UInt64.ofNat sum) else none
  else none

/-- The cost, charged item by item. -/
def charged? (rules : IntrinsicRules) (s : Subject) : Option UInt64 := do
  let gas := UInt64.ofNat (base rules s.isCreation)
  let gas ← charge? (nonzeros s.data) (nonzeroPrice rules) gas
  let gas ← charge? (zeros s.data) zeroPrice gas
  let gas ←
    if s.isCreation ∧ rules.shanghai then charge? (words s.data) codeWordPrice gas else some gas
  let gas ← charge? (s.accessList.getD []).length accessEntryPrice gas
  let gas ← charge? (storageKeys (s.accessList.getD [])) storageKeyPrice gas
  charge? (s.authorizations.getD []).length authorizationPrice gas

/-- What is said where the cost does not fit. -/
def overflowMessage : String := "gas uint64 overflow"

end IntrinsicGas

end TxCourier
