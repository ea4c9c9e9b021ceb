/-! # The curve secp256k1

The points of `y² = x³ + 7` over the field of order `p`, in projective coordinates: `(x, y, z)`
with `z ≠ 0` stands for the affine point `(x / z², y / z³)`, and `z = 0` for the neutral element.
The group laws are not asserted here; the signature module says what it needs of them. -/
namespace TxCourier.Secp256k1

/-- The order of the field. -/
def p : Nat := 0xFFFFFFFFFFFFFFFFFFFFFFFFFFFFFFFFFFFFFFFFFFFFFFFFFFFFFFFEFFFFFC2F

/-- The order of the group. -/
def n : Nat := 0xFFFFFFFFFFFFFFFFFFFFFFFFFFFFFFFEBAAEDCE6AF48A03BBFD25E8CD0364141

def powMod (m b e : Nat) : Nat :=
  if e = 0 then 1 % m
  else
    let h := powMod m (b * b % m) (e / 2)
    if e % 2 = 1 then b * h % m else h
termination_by e
decreasing_by omega

/-- The inverse modulo a prime, and zero for zero. -/
def inverse (m a : Nat) : Nat := powMod m a (m - 2)

structure Point where
  x : Nat
  y : Nat
  z : Nat

namespace Point

def neutral : Point := ⟨1, 1, 0⟩

def generator : Point :=
  ⟨0x79BE667EF9DCBBAC55A06295CE870B07029BFCDB2DCE28D959F2815B16F81798,
   0x483ADA7726A3C4655DA4FBFC0E1108A8FD17B448A68554199C47D08FFB10D4B8, 1⟩

def double (a : Point) : Point :=
  if a.z = 0 ∨ a.y = 0 then neutral
  else
    let yy := a.y * a.y % p
    let s := 4 * a.x * yy % p
    let m := 3 * a.x * a.x % p
    let x := (m * m + 2 * (p - s)) % p
    ⟨x, (m * (s + p - x) + 8 * (p - yy * yy % p)) % p, 2 * a.y * a.z % p⟩

def add (a b : Point) : Point :=
  if a.z = 0 then b
  else if b.z = 0 then a
  else
    let za := a.z * a.z % p
    let zb := b.z * b.z % p
    let u := a.x * zb % p
    let v := b.x * za % p
    let s := a.y * zb % p * b.z % p
    let t := b.y * za % p * a.z % p
    if u = v then (if s = t then double a else neutral)
    else
      let h := (v + p - u) % p
      let r := (t + p - s) % p
      let hh := h * h % p
      let hhh := h * hh % p
      let w := u * hh % p
      let x := (r * r + (p - hhh) + 2 * (p - w)) % p
      ⟨x, (r * (w + p - x) + (p - s * hhh % p)) % p, h * a.z % p * b.z % p⟩

/-- The `k`-fold sum of a point. -/
def multiple (k : Nat) (a : Point) : Point :=
  if k = 0 then neutral
  else
    let rest := multiple (k / 2) (double a)
    if k % 2 = 1 then add a rest else rest
termination_by k
decreasing_by omega

/-- The affine coordinates; the neutral element has none. -/
def affine? (a : Point) : Option (Nat × Nat) :=
  if a.z = 0 then none
  else
    let i := inverse p a.z
    let ii := i * i % p
    some (a.x * ii % p, a.y * ii % p * i % p)

/-- The point with the given abscissa whose ordinate is odd as asked, if there is one. -/
def lift? (x : Nat) (odd : Bool) : Option Point :=
  let yy := (x * x % p * x + 7) % p
  let y := powMod p yy ((p + 1) / 4)
  if x < p ∧ y * y % p = yy then
    some ⟨x, if (y % 2 = 1) = (odd = true) then y else (p - y) % p, 1⟩
  else none

end Point

end TxCourier.Secp256k1
