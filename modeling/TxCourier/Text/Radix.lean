/-! # Numbers in text

A number may be written in hexadecimal, octal, binary or decimal digits, told apart by a prefix.
Underscores between the digits are passed over, and no digits at all write zero. -/
namespace TxCourier.Radix

/-- The value of a digit in the largest radix that letters allow. -/
def value? (c : Char) : Option Nat :=
  let n := c.toNat
  if 48 ≤ n ∧ n ≤ 57 then some (n - 48)
  else if 97 ≤ n ∧ n ≤ 122 then some (n - 87)
  else if 65 ≤ n ∧ n ≤ 90 then some (n - 55)
  else none

/-- The radix that the prefix tells, and the digits. -/
def split : List Char → Nat × List Char
  | '0' :: 'x' :: rest => (16, rest)
  | '0' :: 'X' :: rest => (16, rest)
  | '0' :: 'o' :: rest => (8, rest)
  | '0' :: 'O' :: rest => (8, rest)
  | '0' :: 'b' :: rest => (2, rest)
  | '0' :: 'B' :: rest => (2, rest)
  | cs => (10, cs)

/-- One more digit of a number below `limit`. -/
def push (limit radix : Nat) (n : Nat) (c : Char) : Option Nat :=
  if c = '_' then some n
  else
    match value? c with
    | none => none
    | some d => if d < radix ∧ radix * n + d < limit then some (radix * n + d) else none

/-- The number below `limit` that a text writes. -/
def parse? (limit : Nat) (text : String) : Option Nat :=
  let (radix, digits) := split text.toList
  digits.foldlM (push limit radix) 0

end TxCourier.Radix
