/-! # Decimal literals and floating point

A literal is taken apart into its digits and its power of ten. Held in floating point of 64 bits it
may be too large, and there are two rules for what it is held as. It is rounded once; or as many of
its digits as fit a word of 64 bits are rounded, and so is the power of ten, and then their product.
The second rule refuses some numbers that the first one takes, and the other way round. -/
namespace TxCourier

structure Decimal where
  whole : List Char
  fraction : List Char
  exponent : Int
deriving DecidableEq, Repr

namespace Decimal

/-- The number that some digits write behind another. -/
def extend (n : Nat) (digits : List Char) : Nat :=
  digits.foldl (fun n c => 10 * n + (c.toNat - 48)) n

def ofDigits (digits : List Char) : Nat := extend 0 digits

/-- The exponent from behind its mark. -/
def exponentOf : List Char → Int
  | '-' :: digits => - (ofDigits digits : Int)
  | '+' :: digits => ofDigits digits
  | digits => ofDigits digits

/-- The parts of a literal, whose sign is passed over. -/
def ofLiteral (literal : List Char) : Decimal :=
  let unsigned := match literal with
    | '-' :: rest => rest
    | '+' :: rest => rest
    | cs => cs
  let (whole, rest) := unsigned.span Char.isDigit
  let (fraction, rest) := match rest with
    | '.' :: rest => rest.span Char.isDigit
    | _ => ([], rest)
  ⟨whole, fraction, exponentOf (rest.drop 1)⟩

/-! ## Rounding once -/

/-- The least number that rounds past the largest finite one: half a step above it. -/
def finiteBound : Nat := Nat.pow 2 1024 - Nat.pow 2 970

/-- Whether the number rounds to a finite one. -/
def isFinite (d : Decimal) : Bool :=
  let digits := ofDigits (d.whole ++ d.fraction)
  let exponent := d.exponent - d.fraction.length
  if digits = 0 then true
  else if 0 ≤ exponent then
    exponent ≤ 308 && digits * Nat.pow 10 exponent.toNat < finiteBound
  else if digits.repr.length ≤ 308 + exponent.natAbs then true
  else digits < finiteBound * Nat.pow 10 exponent.natAbs

/-! ## Rounding the parts -/

/-- The nearest number of 53 significant bits, the even one of two that are as near. -/
def rounded (n : Nat) : Nat :=
  let step := Nat.pow 2 (n.log2 - 52)
  let below := n / step
  let rest := n % step
  if 2 * rest < step ∨ 2 * rest = step ∧ below % 2 = 0 then below * step else (below + 1) * step

/-- As many digits behind a number as fit 64 bits with it, and how many do not. -/
def kept : List Char → Nat → Nat × Nat
  | [], n => (n, 0)
  | c :: rest, n =>
    let more := extend n [c]
    if more < UInt64.size then kept rest more else (n, rest.length + 1)

/-- Whether the product of the rounded digits and the rounded power of ten is finite. Digits of the
whole part that are not kept still count as places. -/
def isFiniteByParts (d : Decimal) : Bool :=
  let (whole, places) := kept d.whole 0
  let (digits, dropped) := kept d.fraction whole
  let exponent := d.exponent + places - (d.fraction.length - dropped : Nat)
  digits = 0 || exponent < 0
    || exponent ≤ 308 && rounded digits * rounded (Nat.pow 10 exponent.toNat) < finiteBound

end Decimal

end TxCourier
