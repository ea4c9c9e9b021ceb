import TxCourier.Bytes.Hex
import TxCourier.Text.Utf8

/-! # The text of the octets of a text

The reading that replaces what is no character reads the octets of a text back as they were: no
octet of a character is taken for a stray one. What becomes of other octets is not held here. -/
namespace TxCourier

/-! ## The octets of a text -/

/-- The octets that are still to be listed follow those that are listed already. -/
theorem Bytes.listed_eq (b : ByteArray) (ahead i : Nat) (read : Bytes) (left : b.size - i = ahead) :
    ByteArray.toList.loop b i read = read.reverse ++ b.data.toList.drop i := by
  induction ahead generalizing i read with
  | zero =>
    have done : b.data.toList.length ≤ i := by
      rw [Array.length_toList, ByteArray.size_data]
      omega
    rw [ByteArray.toList.loop, if_neg (by omega), List.drop_of_length_le done, List.append_nil]
  | succ ahead ih =>
    have inside : i < b.data.toList.length := by
      rw [Array.length_toList, ByteArray.size_data]
      omega
    have next : b.get! i = b.data.toList[i] := by
      rw [Array.getElem_toList]
      exact getElem!_pos b.data i inside
    rw [ByteArray.toList.loop, if_pos (by omega), ih (i + 1) _ (by omega), List.reverse_cons, next,
      List.append_assoc, List.drop_eq_getElem_cons inside]
    rfl

/-- The octets of a text are those of its characters. -/
theorem Hex.octets_eq (s : String) : Hex.octets s = s.toList.flatMap String.utf8EncodeChar := by
  have whole (b : ByteArray) : b.toList = b.data.toList :=
    Bytes.listed_eq b b.size 0 [] (Nat.sub_zero _)
  rw [Hex.octets, String.toUTF8, ← String.utf8Encode_toList, List.utf8Encode, whole,
    List.data_toByteArray]

/-! ## One character -/

namespace Utf8

theorem toNat_ofNat_of_lt {n : Nat} (octet : n < 256) : (UInt8.ofNat n).toNat = n := by
  rw [UInt8.toNat_ofNat']
  omega

theorem begin_of_started {x : UInt8} {s : Started} (lead : first x = .started s)
    (cs : List Char) : State.begin cs x = ⟨some s, cs⟩ := by
  rw [State.begin, lead]

/-- The first octet of a character that takes two. -/
theorem begin_of_two {v : Nat} (least : 0x80 ≤ v) (most : v < 0x800) (cs : List Char) :
    State.begin cs (UInt8.ofNat (v / 64 % 32 + 192)) = ⟨some ⟨1, 0x80, 0xBF, v / 64⟩, cs⟩ := by
  have bits : v / 64 % 32 + 192 - 0xC0 = v / 64 := by omega
  apply begin_of_started
  rw [first, toNat_ofNat_of_lt (by omega), if_neg (by omega), if_neg (by omega),
    if_pos (by omega), bits]

/-- The first octet of a character that takes three. It narrows the second where the character
would not need three, or would be half of a pair. -/
theorem begin_of_three {v : Nat} (least : 0x800 ≤ v) (most : v < 0x10000)
    (scalar : v < 0xD800 ∨ 0xDFFF < v) (cs : List Char) :
    ∃ low high : UInt8, low.toNat ≤ v / 64 % 64 + 128 ∧ v / 64 % 64 + 128 ≤ high.toNat ∧
      State.begin cs (UInt8.ofNat (v / 4096 % 16 + 224))
        = ⟨some ⟨2, low, high, v / 4096⟩, cs⟩ := by
  have below : v / 64 % 64 + 128 ≤ 0xBF := by omega
  have above : 0x80 ≤ v / 64 % 64 + 128 := by omega
  by_cases overlong : v / 4096 = 0
  · have narrow : 0xA0 ≤ v / 64 % 64 + 128 := by omega
    refine ⟨0xA0, 0xBF, narrow, below, begin_of_started ?_ cs⟩
    rw [first, toNat_ofNat_of_lt (by omega), if_neg (by omega), if_neg (by omega),
      if_neg (by omega), if_pos (by omega), overlong]
  · by_cases paired : v / 4096 = 13
    · have narrow : v / 64 % 64 + 128 ≤ 0x9F := by omega
      refine ⟨0x80, 0x9F, above, narrow, begin_of_started ?_ cs⟩
      rw [first, toNat_ofNat_of_lt (by omega), if_neg (by omega), if_neg (by omega),
        if_neg (by omega), if_neg (by omega), if_pos (by omega), paired]
    · have bits : v / 4096 % 16 + 224 - 0xE0 = v / 4096 := by omega
      refine ⟨0x80, 0xBF, above, below, begin_of_started ?_ cs⟩
      rw [first, toNat_ofNat_of_lt (by omega), if_neg (by omega), if_neg (by omega),
        if_neg (by omega), if_neg (by omega), if_neg (by omega), if_pos (by omega), bits]

/-- The first octet of a character that takes four. It narrows the second where the character
would not need four, or would be none. -/
theorem begin_of_four {v : Nat} (least : 0x10000 ≤ v) (most : v < 0x110000) (cs : List Char) :
    ∃ low high : UInt8, low.toNat ≤ v / 4096 % 64 + 128 ∧ v / 4096 % 64 + 128 ≤ high.toNat ∧
      State.begin cs (UInt8.ofNat (v / 262144 % 8 + 240))
        = ⟨some ⟨3, low, high, v / 262144⟩, cs⟩ := by
  have below : v / 4096 % 64 + 128 ≤ 0xBF := by omega
  have above : 0x80 ≤ v / 4096 % 64 + 128 := by omega
  by_cases overlong : v / 262144 = 0
  · have narrow : 0x90 ≤ v / 4096 % 64 + 128 := by omega
    refine ⟨0x90, 0xBF, narrow, below, begin_of_started ?_ cs⟩
    rw [first, toNat_ofNat_of_lt (by omega), if_neg (by omega), if_neg (by omega),
      if_neg (by omega), if_neg (by omega), if_neg (by omega), if_neg (by omega),
      if_pos (by omega), overlong]
  · by_cases last : v / 262144 = 4
    · have narrow : v / 4096 % 64 + 128 ≤ 0x8F := by omega
      refine ⟨0x80, 0x8F, above, narrow, begin_of_started ?_ cs⟩
      rw [first, toNat_ofNat_of_lt (by omega), if_neg (by omega), if_neg (by omega),
        if_neg (by omega), if_neg (by omega), if_neg (by omega), if_neg (by omega),
        if_neg (by omega), if_neg (by omega), if_pos (by omega), last]
    · have bits : v / 262144 % 8 + 240 - 0xF0 = v / 262144 := by omega
      refine ⟨0x80, 0xBF, above, below, begin_of_started ?_ cs⟩
      rw [first, toNat_ofNat_of_lt (by omega), if_neg (by omega), if_neg (by omega),
        if_neg (by omega), if_neg (by omega), if_neg (by omega), if_neg (by omega),
        if_neg (by omega), if_pos (by omega), bits]

variable {low high : UInt8} {bits n : Nat} {cs : List Char}

theorem inRange_ofNat (six : n < 64) (above : low.toNat ≤ n + 128) (below : n + 128 ≤ high.toNat) :
    low ≤ UInt8.ofNat (n + 128) ∧ UInt8.ofNat (n + 128) ≤ high := by
  rw [UInt8.le_iff_toNat_le, UInt8.le_iff_toNat_le, toNat_ofNat_of_lt (by omega)]
  exact ⟨above, below⟩

/-- An octet in the range that is asked for adds six bits to the character that was begun. -/
theorem push_more {owed : Nat} (six : n < 64) (above : low.toNat ≤ n + 128)
    (below : n + 128 ≤ high.toNat) :
    State.push ⟨some ⟨owed + 2, low, high, bits⟩, cs⟩ (UInt8.ofNat (n + 128))
      = ⟨some ⟨owed + 1, 0x80, 0xBF, 64 * bits + n⟩, cs⟩ := by
  have added : n + 128 - 0x80 = n := by omega
  simp only [State.push, if_pos (inRange_ofNat six above below),
    toNat_ofNat_of_lt (show n + 128 < 256 by omega), added]
  rfl

theorem push_last (six : n < 64) (above : low.toNat ≤ n + 128) (below : n + 128 ≤ high.toNat) :
    State.push ⟨some ⟨1, low, high, bits⟩, cs⟩ (UInt8.ofNat (n + 128))
      = ⟨none, Char.ofNat (64 * bits + n) :: cs⟩ := by
  have added : n + 128 - 0x80 = n := by omega
  simp only [State.push, if_pos (inRange_ofNat six above below),
    toNat_ofNat_of_lt (show n + 128 < 256 by omega), added, if_true]

theorem six_le (n : Nat) : (0x80 : UInt8).toNat ≤ n + 128 := Nat.le_add_left 128 n

theorem six_lt (six : n < 64) : n + 128 ≤ (0xBF : UInt8).toNat := by
  have below : n + 128 ≤ 191 := by omega
  exact below

/-- The octets of a character put it in front of the characters so far. -/
theorem foldl_push_encoded (c : Char) (cs : List Char) :
    (String.utf8EncodeChar c).foldl State.push ⟨none, cs⟩ = ⟨none, c :: cs⟩ := by
  have same : Char.ofNat c.val.toNat = c := Char.ofNat_toNat c
  have valid : c.val.toNat < 0xD800 ∨ 0xDFFF < c.val.toNat ∧ c.val.toNat < 0x110000 := c.valid
  generalize number : c.val.toNat = v at same valid
  unfold String.utf8EncodeChar
  rw [number]
  dsimp only
  -- One case for each number of octets. The first octet says how many follow, and the last is the
  -- one behind which nothing is owed.
  split
  · have whole : first (UInt8.ofNat v) = .whole (Char.ofNat v) := by
      rw [first, toNat_ofNat_of_lt (by omega), if_pos (by omega)]
    change State.begin cs (UInt8.ofNat v) = _
    rw [State.begin, whole, same]
  · split
    · have last : v % 64 < 64 := by omega
      have bits : 64 * (v / 64) + v % 64 = v := by omega
      change State.push (State.begin cs (UInt8.ofNat (v / 64 % 32 + 192)))
        (UInt8.ofNat (v % 64 + 128)) = _
      rw [begin_of_two (by omega) (by omega), push_last last (six_le _) (six_lt last), bits, same]
    · have last : v % 64 < 64 := by omega
      have next : v / 64 % 64 < 64 := by omega
      split
      · have bits : 64 * (64 * (v / 4096) + v / 64 % 64) + v % 64 = v := by omega
        obtain ⟨low, high, above, below, begun⟩ :=
          begin_of_three (show 0x800 ≤ v by omega) (by omega) (by omega) cs
        change State.push (State.push (State.begin cs (UInt8.ofNat (v / 4096 % 16 + 224)))
          (UInt8.ofNat (v / 64 % 64 + 128))) (UInt8.ofNat (v % 64 + 128)) = _
        rw [begun, push_more next above below, push_last last (six_le _) (six_lt last), bits, same]
      · have bits : 64 * (64 * (64 * (v / 262144) + v / 4096 % 64) + v / 64 % 64) + v % 64 = v := by
          omega
        obtain ⟨low, high, above, below, begun⟩ :=
          begin_of_four (show 0x10000 ≤ v by omega) (by omega) cs
        change State.push (State.push (State.push
          (State.begin cs (UInt8.ofNat (v / 262144 % 8 + 240))) (UInt8.ofNat (v / 4096 % 64 + 128)))
          (UInt8.ofNat (v / 64 % 64 + 128))) (UInt8.ofNat (v % 64 + 128)) = _
        rw [begun, push_more (by omega) above below, push_more next (six_le _) (six_lt next),
          push_last last (six_le _) (six_lt last), bits, same]

/-! ## All characters -/

theorem foldl_push_octets (text read : List Char) :
    (text.flatMap String.utf8EncodeChar).foldl State.push ⟨none, read⟩
      = ⟨none, text.reverse ++ read⟩ := by
  induction text generalizing read with
  | nil => rfl
  | cons c rest ih =>
    rw [List.flatMap_cons, List.foldl_append, foldl_push_encoded, ih, List.reverse_cons,
      List.append_assoc]
    rfl

/-- The octets of a text are read back as the text. -/
theorem decode_octets (s : String) : decode (Hex.octets s) = s := by
  rw [decode, Hex.octets_eq, foldl_push_octets, List.append_nil, State.finish]
  dsimp only
  rw [List.reverse_reverse, String.ofList_toList]

end Utf8

end TxCourier
