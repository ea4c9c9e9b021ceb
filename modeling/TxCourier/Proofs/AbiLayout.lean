import TxCourier.Abi.Decoding
import TxCourier.Abi.Encoding
import TxCourier.Proofs.StrictRlp

/-! # Rows of heads and tails

A cursor stands before a part when the part can be read from there: in place, or where the distance
at the cursor leads. It stands before a row when the heads follow at the cursor and their distances
lead to the tails, one behind the other. Bytes behind the tails are allowed, and nothing is said
about readings of bytes that were not laid out. -/
namespace TxCourier

theorem Word.lt_size_of_lt {n : Nat} (small : n < UInt64.size) : n < Word.size := by
  have sizes : UInt64.size < Word.size := by decide
  omega

namespace Bytes

theorem toNat_ofNatWidth (width n : Nat) :
    toNat (ofNatWidth width n) = n % Nat.pow 256 width := by
  induction width generalizing n with
  | zero => exact (Nat.mod_one n).symm
  | succ width ih =>
    have digit : n.toUInt8.toNat = n % 256 := UInt8.toNat_ofNat'
    have step : Nat.pow 256 (width + 1) = 256 * Nat.pow 256 width := Nat.mul_comm _ 256
    rw [ofNatWidth, toNat_append_singleton, ih, digit, step, Nat.mod_mul, Nat.add_comm]

theorem toNat_ofNatWidth_of_lt {n : Nat} (fits : n < Word.size) :
    toNat (ofNatWidth 32 n) = n := by
  have size : Word.size = Nat.pow 256 32 := by decide
  rw [toNat_ofNatWidth, ← size, Nat.mod_eq_of_lt fits]

theorem ofNatWidth_toNat (b : Bytes) : ofNatWidth b.length (toNat b) = b := by
  induction h : b.length generalizing b with
  | zero => exact (List.length_eq_zero_iff.mp h).symm
  | succ width ih =>
    rcases List.eq_nil_or_concat b with rfl | ⟨front, x, rfl⟩
    · cases h
    · rw [List.concat_eq_append] at h ⊢
      have shorter : front.length = width := by simpa using h
      have digit := x.toNat_lt
      have above : (256 * toNat front + x.toNat) / 256 = toNat front := by omega
      have last : (256 * toNat front + x.toNat).toUInt8 = x := by
        apply UInt8.toNat_inj.mp
        simp only [Nat.toUInt8, UInt8.toNat_ofNat']
        omega
      rw [toNat_append_singleton, ofNatWidth, above, last, ih front shorter]

theorem toNat_zeros_append (n : Nat) (b : Bytes) : toNat (List.replicate n 0 ++ b) = toNat b := by
  induction n with
  | zero => rfl
  | succ n ih =>
    rw [← ih, List.replicate_succ]
    rfl

end Bytes

namespace Abi

/-! ## Words -/

theorem wordOf_ofNatWidth (w : Word) : wordOf (Bytes.ofNatWidth 32 w.toNat) = w := by
  rw [wordOf, Bytes.toNat_ofNatWidth_of_lt w.isLt, BitVec.ofNat_toNat, BitVec.setWidth_eq]

theorem fixedBytes_ofNat_toNat {n : Nat} (b : FixedBytes n) :
    FixedBytes.ofNat n (Bytes.toNat b.toList) = b := by
  obtain ⟨list, rfl⟩ := b
  rw [FixedBytes.ofNat]
  congr
  exact Bytes.ofNatWidth_toNat list

theorem addressOf_encode (a : Address) : addressOf (List.replicate 12 0 ++ a.toList) = a := by
  rw [addressOf, Bytes.toNat_zeros_append]
  exact fixedBytes_ofNat_toNat a

theorem take_padded {b : Bytes} {size : Nat} (length : b.length = size) :
    (padded b).take size = b := by
  rw [padded, ← length, List.take_left]

theorem length_padded {b : Bytes} (some : 0 < b.length) (fits : b.length ≤ 32) :
    (padded b).length = 32 := by
  rw [padded, List.length_append, List.length_replicate]
  omega

theorem length_le_padded (b : Bytes) : b.length ≤ (padded b).length := by
  rw [padded, List.length_append]
  omega

theorem functionOf_padded (b : FixedBytes 24) : functionOf (padded b.toList) = b := by
  rw [functionOf, take_padded b.length_eq]
  exact fixedBytes_ofNat_toNat b

/-! ## Parts and rows -/

namespace Cursor

/-- The bytes of a reading can be counted with 64 bits. -/
structure Fits (c : Cursor) : Prop where
  base : c.base.length < UInt64.size
  rest : c.rest.length < UInt64.size

/-- A part is what the cursor stands before, with more at the cursor behind it. -/
def StandsBefore (c : Cursor) (more : Bytes) : Part → Prop
  | .inPlace head => c.rest = head ++ more
  | .behind tail => ∃ distance behind, c.rest = Bytes.ofNatWidth 32 distance ++ more ∧
      distance ≤ c.base.length ∧ c.base.drop distance = tail ++ behind

/-- Parts of which the heads follow at the cursor, and the tails where the first distance leads. -/
def StandsBeforeRow (c : Cursor) (more : Bytes) (row : List Part) : Prop :=
  ∃ next behind, c.rest = Part.heads next row ++ more ∧ next ≤ c.base.length ∧
    c.base.drop next = row.flatMap Part.tail ++ behind

variable {c : Cursor} {more : Bytes} {row : List Part}

/-- A part that was read is behind the cursor. -/
theorem StandsBefore.fits {part : Part} (stands : c.StandsBefore more part) (fits : c.Fits) :
    ({ c with rest := more } : Cursor).Fits := by
  have total := fits.rest
  refine ⟨fits.base, Nat.lt_of_le_of_lt ?_ total⟩
  cases part with
  | inPlace head =>
    have rest : c.rest = head ++ more := stands
    rw [rest, List.length_append]
    exact Nat.le_add_left _ _
  | behind tail =>
    obtain ⟨distance, behind, rest, -, -⟩ := stands
    rw [rest, List.length_append]
    exact Nat.le_add_left _ _

/-- Nothing is left of an empty row. -/
theorem StandsBeforeRow.rest_of_nil (stands : c.StandsBeforeRow more []) : c.rest = more := by
  obtain ⟨next, behind, rest, -, -⟩ := stands
  exact rest

/-- Behind its first part a row is a row again. -/
theorem StandsBeforeRow.first {part : Part} (stands : c.StandsBeforeRow more (part :: row)) :
    ∃ between, c.StandsBefore between part ∧
      ({ c with rest := between } : Cursor).StandsBeforeRow more row := by
  obtain ⟨next, behind, rest, inside, tails⟩ := stands
  cases part with
  | inPlace head =>
    refine ⟨Part.heads next row ++ more, ?_, next, behind, rfl, inside, tails⟩
    rw [StandsBefore, rest, Part.heads, List.append_assoc]
  | behind tail =>
    rw [List.flatMap_cons, Part.tail, List.append_assoc] at tails
    have reach : tail.length ≤ c.base.length - next := by
      have total := congrArg List.length tails
      rw [List.length_drop, List.length_append] at total
      omega
    refine ⟨Part.heads (next + tail.length) row ++ more, ⟨next, _, ?_, inside, tails⟩,
      next + tail.length, behind, rfl, ?_, ?_⟩
    · rw [rest, Part.heads, List.append_assoc]
    · change next + tail.length ≤ c.base.length
      omega
    · change c.base.drop (next + tail.length) = _
      rw [← List.drop_drop, tails, List.drop_left]

end Cursor

namespace Part

theorem foldl_headSize (row : List Part) (next n : Nat) :
    row.foldl (fun n part => n + part.headSize) n = n + (heads next row).length := by
  induction row generalizing next n with
  | nil => rfl
  | cons part rest ih =>
    cases part with
    | inPlace head =>
      rw [List.foldl_cons, heads, List.length_append, ih next, headSize, Nat.add_assoc]
    | behind tail =>
      rw [List.foldl_cons, heads, List.length_append, Bytes.length_ofNatWidth,
        ih (next + tail.length), headSize, Nat.add_assoc]

/-- The heads take the same room wherever the tails are. -/
theorem length_heads (row : List Part) (next : Nat) :
    (heads next row).length = row.foldl (fun n part => n + part.headSize) 0 := by
  rw [foldl_headSize row next 0, Nat.zero_add]

theorem length_layout_cons (part : Part) (row : List Part) :
    (layout (part :: row)).length = part.headSize + part.tail.length + (layout row).length := by
  have first (next : Nat) :
      (heads next (part :: row)).length = part.headSize + (heads 0 row).length := by
    cases part with
    | inPlace head => rw [heads, List.length_append, headSize, length_heads, length_heads]
    | behind tail =>
      rw [heads, List.length_append, Bytes.length_ofNatWidth, headSize, length_heads, length_heads]
  simp only [layout, List.length_append, first, List.flatMap_cons, length_heads row]
  omega

/-- Whoever begins to read a layout stands before its row, with the tails behind the heads. -/
theorem standsBeforeRow_layout (row : List Part) (behind : Bytes) (depth : Nat) :
    (⟨layout row ++ behind, layout row ++ behind, depth⟩ : Cursor).StandsBeforeRow
      (row.flatMap tail ++ behind) row := by
  have size := length_heads row (row.foldl (fun n part => n + part.headSize) 0)
  refine ⟨row.foldl (fun n part => n + part.headSize) 0, behind, ?_, ?_, ?_⟩
  · rw [layout, List.append_assoc]
  · rw [← size]
    simp only [layout, List.length_append]
    omega
  · rw [layout, List.append_assoc]
    exact List.drop_left' size

end Part

/-! ## Steps of a reading -/

namespace Cursor

variable {c : Cursor} {word more tail : Bytes}

theorem word?_of_append (length : word.length = 32) (rest : c.rest = word ++ more) :
    c.word? = some (word, { c with rest := more }) := by
  rw [word?, rest, ← length, Rlp.cut?_append]
  rfl

theorem nested?_of_lt (deep : c.depth < depthLimit) (b : Bytes) :
    c.nested? b = some ⟨b, b, c.depth + 1⟩ := if_pos deep

/-- A distance leads to the tail that stands behind it. -/
theorem StandsBefore.follow? (stands : c.StandsBefore more (.behind tail)) (fits : c.Fits)
    (deep : c.depth < depthLimit) :
    ∃ behind, c.follow? = some (⟨tail ++ behind, tail ++ behind, c.depth + 1⟩,
        { c with rest := more }) ∧ (tail ++ behind).length < UInt64.size := by
  obtain ⟨distance, behind, rest, inside, tails⟩ := stands
  have small : distance < Word.size := by
    have bound := fits.base
    exact Word.lt_size_of_lt (by omega)
  refine ⟨behind, ?_, ?_⟩
  · rw [Cursor.follow?, word?_of_append (Bytes.length_ofNatWidth 32 distance) rest]
    simp only [Option.bind_eq_bind, Option.bind_some, Bytes.toNat_ofNatWidth_of_lt small,
      if_pos inside, tails]
    rw [nested?_of_lt (c := { c with rest := more }) deep]
    rfl
  · rw [← tails, List.length_drop]
    exact Nat.lt_of_le_of_lt (Nat.sub_le _ _) fits.base

end Cursor

end Abi

end TxCourier
