import TxCourier.Bytes.Hex
import TxCourier.Text.Radix

/-! # Digits are read as what they write

Two digits for each byte, and a number in as few digits as it takes. The reader of numbers refuses
one that is not below its limit, so only the numbers below it come back. -/
namespace TxCourier

namespace Hex

theorem toList_behind_prefix (cs : List Char) :
    ("0x" ++ String.ofList cs).toList = '0' :: 'x' :: cs := by
  rw [String.toList_append, String.toList_ofList, String.toList_ofList]
  rfl

theorem value?_digit {n : Nat} (small : n < 16) : value? (digit n) = some n := by
  have all : ∀ m, m < 16 → value? (digit m) = some m := by decide
  exact all n small

theorem joined_halves (x : UInt8) : (16 * (x.toNat / 16) + x.toNat % 16).toUInt8 = x := by
  rw [Nat.div_add_mod]
  exact UInt8.ofNat_toNat

theorem bytesFrom_digits (b read : Bytes) :
    bytesFrom (digits b) read = some (read.reverse ++ b) := by
  induction b generalizing read with
  | nil =>
    rw [List.append_nil]
    rfl
  | cons x rest ih =>
    have bound : x.toNat < 256 := x.toNat_lt
    have high : value? (digit (x.toNat / 16)) = some (x.toNat / 16) := value?_digit (by omega)
    have low : value? (digit (x.toNat % 16)) = some (x.toNat % 16) := value?_digit (by omega)
    have split : digits (x :: rest)
        = digit (x.toNat / 16) :: digit (x.toNat % 16) :: digits rest := rfl
    rw [split, bytesFrom, high, low]
    dsimp only
    rw [joined_halves, ih, List.reverse_cons, List.append_assoc]
    rfl

theorem decode?_prefixed (b : Bytes) : decode? (prefixed b) = some b := by
  have text : (prefixed b).toList = '0' :: 'x' :: digits b := toList_behind_prefix _
  unfold decode?
  rw [text]
  exact bytesFrom_digits b []

end Hex

namespace Radix

variable {limit : Nat}

theorem push_digitChar {d : Nat} (small : d < 16) (n : Nat) (below : 16 * n + d < limit) :
    push limit 16 n d.digitChar = some (16 * n + d) := by
  have all : ∀ m, m < 16 → m.digitChar ≠ '_' ∧ value? m.digitChar = some m := by decide
  obtain ⟨plain, value⟩ := all d small
  unfold push
  rw [if_neg plain, value]
  exact if_pos ⟨small, below⟩

theorem foldlM_toDigits (n : Nat) (below : n < limit) :
    (Nat.toDigits 16 n).foldlM (push limit 16) 0 = some n := by
  induction n using Nat.strongRecOn with
  | _ n ih =>
    by_cases small : n < 16
    · rw [Nat.toDigits_of_lt_base small, List.foldlM_cons, push_digitChar small 0 (by omega)]
      rw [Nat.mul_zero, Nat.zero_add]
      rfl
    · have parts : 16 * (n / 16) + n % 16 = n := Nat.div_add_mod n 16
      have last : n % 16 < 16 := Nat.mod_lt n (by decide)
      have digits := Nat.toDigits_append_toDigits (b := 16) (by decide)
        (show 0 < n / 16 by omega) last
      rw [parts] at digits
      rw [← digits, List.foldlM_append, ih (n / 16) (by omega) (by omega),
        Nat.toDigits_of_lt_base last, Option.bind_eq_bind, Option.bind_some, List.foldlM_cons,
        push_digitChar last (n / 16) (by omega), parts]
      rfl

theorem parse?_quantity {n : Nat} (below : n < limit) :
    parse? limit (Hex.quantity n) = some n := by
  have text : (Hex.quantity n).toList = '0' :: 'x' :: Nat.toDigits 16 n :=
    Hex.toList_behind_prefix _
  unfold parse?
  rw [text]
  exact foldlM_toDigits n below

end Radix

end TxCourier
