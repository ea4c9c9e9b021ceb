import TxCourier.Curve.Secp256k1
import TxCourier.Digest.Sha256
import TxCourier.Digest.Keccak
import TxCourier.Word

/-! # Recoverable signatures

Signing picks its nonce from the key and the digest alone, so that the same digest always gets the
same signature, and it answers with the smaller of the two possible scalars `s`. Recovery finds
the key that made a signature. That recovery inverts signing is a fact about the group; it is not
asserted here. -/
namespace TxCourier

/-- A signature with the parity of the ordinate of its nonce point. -/
structure Signature where
  r : Word
  s : Word
  parity : Bool
deriving DecidableEq

/-- A secret scalar between one and the order of the group, both excluded from below and above. -/
structure SecretKey where
  scalar : Nat
  pos : 0 < scalar
  lt_order : scalar < Secp256k1.n

/-- A point of the curve in affine coordinates. -/
structure PublicKey where
  x : Nat
  y : Nat

namespace PublicKey

/-- The low twenty octets of the digest of both coordinates. -/
def address (k : PublicKey) : Address :=
  let digest := keccak256 (Bytes.ofNatWidth 32 k.x ++ Bytes.ofNatWidth 32 k.y)
  ⟨digest.toList.drop 12, by simp [digest.length_eq]⟩

/-- The compressed form: the parity of the ordinate, then the abscissa. -/
def compressed (k : PublicKey) : Bytes :=
  (if k.y % 2 = 1 then 0x03 else 0x02) :: Bytes.ofNatWidth 32 k.x

end PublicKey

namespace SecretKey

def publicKey (k : SecretKey) : PublicKey :=
  match (Secp256k1.Point.generator.multiple k.scalar).affine? with
  | some (x, y) => ⟨x, y⟩
  | none => ⟨0, 0⟩

end SecretKey

namespace Ecdsa

open Secp256k1

/-- The two values that the nonce generator carries from one step to the next. -/
structure Generator where
  key : Bytes
  value : Bytes

/-- The generator takes in some bytes. -/
def Generator.update (g : Generator) (b : Bytes) : Generator :=
  let key := hmacSha256 g.key (g.value ++ b)
  ⟨key, hmacSha256 key g.value⟩

/-- The first candidate that is a scalar of the group other than zero. A candidate fails with a
chance of about one in `2 ^ 127`, so a few rounds always do. -/
def Generator.draw : Nat → Generator → Option Nat
  | 0, _ => none
  | rounds + 1, g =>
    let value := hmacSha256 g.key g.value
    let k := Bytes.toNat value
    if 0 < k ∧ k < n then some k
    else draw rounds ((Generator.mk g.key value).update [0x00])

/-- The nonce for a key and a digest, which is taken as it is and not modulo the order. -/
def nonce (secret : Nat) (digest : Hash) : Option Nat :=
  let seed := Bytes.ofNatWidth 32 secret ++ digest.toList
  let start : Generator := ⟨List.replicate 32 0x00, List.replicate 32 0x01⟩
  ((start.update (0x00 :: seed)).update (0x01 :: seed)).draw 16

/-- The signature of a digest. There is none only where the nonce generator or a scalar fails,
which no known input does. -/
def sign? (key : SecretKey) (digest : Hash) : Option Signature := do
  let z := digest.toNat % n
  let k ← nonce key.scalar digest
  let (x, y) ← (Point.generator.multiple k).affine?
  let r := x % n
  let s := inverse n k * ((z + r * key.scalar) % n) % n
  if r = 0 ∨ s = 0 then none
  else if n / 2 < s then
    some ⟨BitVec.ofNat 256 r, BitVec.ofNat 256 (n - s), y % 2 = 0⟩
  else some ⟨BitVec.ofNat 256 r, BitVec.ofNat 256 s, y % 2 = 1⟩

/-- The other signature that the same key could have made: `n - s` with the parity turned. -/
def lowS (sig : Signature) : Signature :=
  if n / 2 < sig.s.toNat ∧ sig.s.toNat < n then
    { sig with s := BitVec.ofNat 256 (n - sig.s.toNat), parity := !sig.parity }
  else sig

/-- The key whose signature of the digest this is. There is none for scalars out of range and for
an abscissa that no point has. -/
def recover? (sig : Signature) (digest : Hash) : Option PublicKey := do
  let low := lowS sig
  let r := low.r.toNat
  let s := low.s.toNat
  if r = 0 ∨ n ≤ r ∨ s = 0 ∨ n ≤ s then none
  else
    let point ← Point.lift? r low.parity
    let inv := inverse n r
    let u := (n - digest.toNat % n) * inv % n
    let v := s * inv % n
    let (x, y) ← ((Point.generator.multiple u).add (point.multiple v)).affine?
    some ⟨x, y⟩

end Ecdsa

end TxCourier
