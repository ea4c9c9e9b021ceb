import TxCourier.Text.Decimal
import TxCourier.Toml.Table

/-! # What a value of a settings file is read as

Not every value that is well formed can be held: an integer has 128 bits at most and a number in
floating point is finite. Whatever is looked at has to be one that can be held, and the entries of a
table that are not known are looked at too. -/
namespace TxCourier.Toml.Value

/-- An integer of at most 128 bits, with a sign or without. -/
def int? : Value → Option Int
  | .integer (some n) =>
    if - (Nat.pow 2 127 : Int) ≤ n ∧ n < (Nat.pow 2 128 : Int) then some n else none
  | _ => none

def nat? (v : Value) : Option Nat := v.int?.bind Int.toNat?

def bool? : Value → Option Bool
  | .bool b => some b
  | _ => none

def str? : Value → Option String
  | .string s => some s
  | _ => none

mutual

/-- Whether the value can be held with all that is in it. -/
def isHeld : Value → Bool
  | .integer n => (int? (.integer n)).isSome
  | .float literal => (Decimal.ofLiteral literal.toList).isFinite
  | .array items => allHeld items
  | .table _ entries => entriesHeld entries
  | .tables last earlier => entriesHeld last && tablesHeld earlier
  | .string _ | .bool _ | .moment _ => true

def allHeld : List Value → Bool
  | [] => true
  | v :: rest => v.isHeld && allHeld rest

def entriesHeld : List (String × Value) → Bool
  | [] => true
  | (_, v) :: rest => v.isHeld && entriesHeld rest

def tablesHeld : List (List (String × Value)) → Bool
  | [] => true
  | entries :: rest => entriesHeld entries && tablesHeld rest

end

/-- The fields of a record with some known names, in their order. Of an array only as many items are
looked at as there are names, and a date is a record of which no name is known. -/
def fields? (names : List String) : Value → Option (List (String × Value))
  | .table _ entries =>
    if entriesHeld (entries.filter fun e => e.1 ∉ names) then some entries else none
  | .tables last earlier => some (names.zip ((last :: earlier).reverse.map (.table .header)))
  | .array items => some (names.zip items)
  | .moment _ => some []
  | _ => none

end TxCourier.Toml.Value
