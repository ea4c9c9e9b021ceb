import TxCourier.Proofs.Rlp

/-! # Only encodings are read

What a reader of items accepts is the encoding of what it gives, followed by the rest: a header with
a longer length than it needs, a number with a leading zero and a list with bytes left over are all
refused. The lengths that are read fit in a header, so nothing is assumed about sizes here. -/
namespace TxCourier

namespace Bytes

theorem toNat_lt (b : Bytes) : toNat b < Nat.pow 256 b.length := by
  induction h : b.length generalizing b with
  | zero =>
    rw [List.length_eq_zero_iff.mp h]
    decide
  | succ width ih =>
    rcases List.eq_nil_or_concat b with rfl | ⟨front, x, rfl⟩
    · cases h
    · rw [List.concat_eq_append] at h ⊢
      have shorter : front.length = width := by simpa using h
      have digits := ih front shorter
      have digit := x.toNat_lt
      have step : Nat.pow 256 (width + 1) = Nat.pow 256 width * 256 := rfl
      rw [toNat_append_singleton]
      omega

/-- Digits that do not begin with a zero are the shortest form of their number. -/
theorem ofNat_toNat {b : Bytes} (front : b.head? ≠ some 0) : ofNat (toNat b) = b := by
  induction h : b.length generalizing b with
  | zero =>
    rw [List.length_eq_zero_iff.mp h]
    exact ofNat_zero
  | succ width ih =>
    rcases List.eq_nil_or_concat b with rfl | ⟨high, x, rfl⟩
    · cases h
    · rw [List.concat_eq_append] at front h ⊢
      have digit := x.toNat_lt
      have value := toNat_append_singleton high x
      cases high with
      | nil =>
        have nonzero : x ≠ 0 := by simpa using front
        have pos : 0 < x.toNat := by
          apply Nat.pos_of_ne_zero
          intro zero
          exact nonzero (UInt8.toNat_inj.mp zero)
        have none_left : x.toNat / 256 = 0 := by omega
        rw [value]
        simp [toNat, ofNat_of_pos pos, none_left]
      | cons y tail =>
        have back := ih (b := y :: tail) (by simpa using front) (by simpa using h)
        have pos : 0 < toNat (y :: tail) := by
          apply Nat.pos_of_ne_zero
          intro zero
          simp [zero] at back
        have shifted : (256 * toNat (y :: tail) + x.toNat) / 256 = toNat (y :: tail) := by omega
        have last : (256 * toNat (y :: tail) + x.toNat).toUInt8 = x := by
          apply UInt8.toNat_inj.mp
          simp only [Nat.toUInt8, UInt8.toNat_ofNat']
          omega
        rw [value, ofNat_of_pos (by omega), shifted, last, back]

end Bytes

namespace Rlp

theorem eq_of_cut? {n : Nat} {b payload rest : Bytes} (found : cut? n b = some (payload, rest)) :
    b = payload ++ rest ∧ payload.length = n := by
  simp only [cut?, List.splitAt_eq] at found
  split at found
  · rename_i size
    cases found
    exact ⟨(List.take_append_drop n b).symm, size⟩
  · cases found

/-! ## Headers -/

theorem eq_of_longLength? {width n : Nat} {b rest : Bytes}
    (found : longLength? width b = some (n, rest)) :
    b = Bytes.ofNat n ++ rest ∧ (Bytes.ofNat n).length = width ∧ 56 ≤ n := by
  unfold longLength? at found
  split at found
  · cases found
  · rename_i digits tail parts
    split at found
    · cases found
    · rename_i strict
      cases found
      obtain ⟨whole, size⟩ := eq_of_cut? parts
      have shortest := Bytes.ofNat_toNat fun zero => strict (.inl zero)
      rw [shortest]
      exact ⟨whole, size, by omega⟩

/-- A length of at most eight digits has room in a header. -/
theorem lt_of_length_ofNat {n : Nat} (digits : (Bytes.ofNat n).length ≤ 8) : n < UInt64.size := by
  have bound := Bytes.toNat_lt (Bytes.ofNat n)
  rw [Bytes.toNat_ofNat] at bound
  have room : Nat.pow 256 (Bytes.ofNat n).length ≤ Nat.pow 256 8 :=
    Nat.pow_le_pow_right (by decide) digits
  exact Nat.lt_of_lt_of_le bound room

namespace Header

/-- The bytes of a header. -/
def encode : Header → Bytes
  | single x => [x]
  | string n => header 0x80 n
  | list n => header 0xc0 n

/-- A single byte is below 128, and a length has room. -/
def Fits : Header → Prop
  | single x => x < 0x80
  | string n | list n => n < UInt64.size

/-- A first byte less than 56 above the base is a header by itself. -/
theorem eq_of_short {base first : UInt8} (above : base.toNat ≤ first.toNat)
    (short : first.toNat - base.toNat < 56) :
    [first] = header base (first.toNat - base.toNat) ∧
      first.toNat - base.toNat < UInt64.size := by
  have bound := first.toNat_lt
  refine ⟨?_, Nat.lt_trans short (by decide)⟩
  rw [header, if_pos short]
  congr 1
  apply UInt8.toNat_inj.mp
  rw [toNat_offset (by omega)]
  omega

/-- A greater one tells how many digits the length has, which follow it. -/
theorem eq_of_long {base first : UInt8} {n : Nat} {tail rest : Bytes}
    (above : base.toNat + 55 ≤ first.toNat) (narrow : first.toNat - (base.toNat + 55) ≤ 8)
    (found : longLength? (first.toNat - (base.toNat + 55)) tail = some (n, rest)) :
    first :: tail = header base n ++ rest ∧ n < UInt64.size := by
  obtain ⟨rfl, size, long⟩ := eq_of_longLength? found
  have bound := first.toNat_lt
  have raised : (base + 55).toNat = base.toNat + 55 := toNat_offset (by simp; omega)
  have value : base + 55 + (Bytes.ofNat n).length.toUInt8 = first := by
    apply UInt8.toNat_inj.mp
    rw [toNat_offset (by omega), raised]
    omega
  refine ⟨?_, lt_of_length_ofNat (by omega)⟩
  simp [header, if_neg (show ¬n < 56 by omega), value]

theorem eq_of_read? {b rest : Bytes} {h : Header} (found : read? b = some (h, rest)) :
    b = h.encode ++ rest ∧ h.Fits := by
  cases b with
  | nil => cases found
  | cons x tail =>
    have octet := x.toNat_lt
    have string : (0x80 : UInt8).toNat = 0x80 := rfl
    have list : (0xc0 : UInt8).toNat = 0xc0 := rfl
    simp only [read?] at found
    -- The cases are the five ranges of the first byte.
    split at found
    · rename_i bare
      cases found
      exact ⟨rfl, bare⟩
    split at found
    · cases found
      obtain ⟨whole, room⟩ := @eq_of_short 0x80 x (by omega) (by omega)
      exact ⟨congrArg (· ++ rest) whole, room⟩
    split at found
    · obtain ⟨⟨n, left⟩, length, same⟩ := Option.map_eq_some_iff.mp found
      cases same
      exact @eq_of_long 0x80 x n tail left (by omega) (by omega) length
    split at found
    · cases found
      obtain ⟨whole, room⟩ := @eq_of_short 0xc0 x (by omega) (by omega)
      exact ⟨congrArg (· ++ rest) whole, room⟩
    · obtain ⟨⟨n, left⟩, length, same⟩ := Option.map_eq_some_iff.mp found
      cases same
      exact @eq_of_long 0xc0 x n tail left (by omega) (by omega) length

end Header

/-! ## Items -/

namespace Item

/-- What is read as an item is its encoding, followed by the rest. -/
theorem eq_of_read? {b rest : Bytes} {i : Item} (found : read? b = some (i, rest)) :
    b = i.encode ++ rest ∧ i.Fits := by
  unfold read? at found
  split at found
  · cases found
  · rename_i x tail header
    cases found
    obtain ⟨whole, bare⟩ := Header.eq_of_read? header
    rw [encode_bare x bare]
    exact ⟨whole, show 1 < UInt64.size by decide⟩
  · rename_i n tail header
    obtain ⟨whole, room⟩ := Header.eq_of_read? header
    split at found
    · cases found
    · rename_i payload left parts
      obtain ⟨split, size⟩ := eq_of_cut? parts
      cases headed : isBare payload with
      | true => simp [headed] at found
      | false =>
        simp only [headed, Bool.false_eq_true, if_false, Option.some.injEq, Prod.mk.injEq] at found
        obtain ⟨rfl, rfl⟩ := found
        rw [encode_bytes headed, size, List.append_assoc, ← split]
        exact ⟨whole, show payload.length < UInt64.size from size ▸ room⟩
  · rename_i n tail header
    obtain ⟨whole, room⟩ := Header.eq_of_read? header
    obtain ⟨⟨payload, left⟩, parts, same⟩ := Option.map_eq_some_iff.mp found
    cases same
    obtain ⟨split, size⟩ := eq_of_cut? parts
    rw [encode, size, List.append_assoc, ← split]
    exact ⟨whole, show payload.length < UInt64.size from size ▸ room⟩

/-- More bytes behind an item are more of the rest. -/
theorem read?_append {b rest : Bytes} {i : Item} (found : read? b = some (i, rest))
    (more : Bytes) : read? (b ++ more) = some (i, rest ++ more) := by
  obtain ⟨rfl, fits⟩ := eq_of_read? found
  rw [List.append_assoc]
  exact read?_encode fits (rest ++ more)

end Item

theorem eq_of_readAllFrom {b : Bytes} {read items : List Item}
    (found : readAllFrom b read = some items) :
    ∃ later, items = read.reverse ++ later ∧ b = encodeAll later := by
  fun_induction readAllFrom b read with
  | case1 read =>
    cases found
    exact ⟨[], by simp, rfl⟩
  | case2 => cases found
  | case3 read x tail i rest first ih =>
    obtain ⟨later, rfl, rfl⟩ := ih found
    obtain ⟨whole, -⟩ := Item.eq_of_read? first
    exact ⟨i :: later, by simp, whole⟩

namespace Item

/-- An item that is read as a list of items is their list. -/
theorem eq_of_items? {i : Item} {items : List Item} (found : i.items? = some items) :
    i = ofList items := by
  cases i with
  | bytes b => cases found
  | list b =>
    obtain ⟨later, rfl, rfl⟩ := eq_of_readAllFrom found
    rfl

/-! ## Members of a list -/

theorem eq_of_nat? {width n : Nat} {i : Item} (found : i.nat? width = some n) :
    i = ofNat n ∧ n < Nat.pow 256 width := by
  cases i with
  | list b => cases found
  | bytes b =>
    simp only [nat?] at found
    split at found
    · cases found
    · rename_i strict
      cases found
      have shortest := Bytes.ofNat_toNat fun zero => strict (.inl zero)
      have narrow : b.length ≤ width := Nat.le_of_not_lt fun wide => strict (.inr wide)
      refine ⟨by rw [ofNat, shortest], ?_⟩
      exact Nat.lt_of_lt_of_le (Bytes.toNat_lt b) (Nat.pow_le_pow_right (by decide) narrow)

@[grind →]
theorem eq_of_word? {i : Item} {w : Word} (found : i.word? = some w) : i = ofWord w := by
  obtain ⟨n, digits, rfl⟩ := Option.map_eq_some_iff.mp found
  obtain ⟨rfl, bound⟩ := eq_of_nat? digits
  rw [ofWord, BitVec.toNat_ofNat, Nat.mod_eq_of_lt bound]

@[grind →]
theorem eq_of_fee? {i : Item} {f : Fee} (found : i.fee? = some f) : i = ofNat f.toNat := by
  obtain ⟨n, digits, rfl⟩ := Option.map_eq_some_iff.mp found
  obtain ⟨rfl, bound⟩ := eq_of_nat? digits
  rw [BitVec.toNat_ofNat, Nat.mod_eq_of_lt bound]

@[grind →]
theorem eq_of_uint64? {i : Item} {n : UInt64} (found : i.uint64? = some n) : i = ofUInt64 n := by
  obtain ⟨n, digits, rfl⟩ := Option.map_eq_some_iff.mp found
  obtain ⟨rfl, bound⟩ := eq_of_nat? digits
  rw [ofUInt64, UInt64.toNat_ofNat_of_lt' bound]

@[grind →]
theorem eq_of_uint8? {i : Item} {n : UInt8} (found : i.uint8? = some n) : i = ofNat n.toNat := by
  obtain ⟨n, digits, rfl⟩ := Option.map_eq_some_iff.mp found
  obtain ⟨rfl, bound⟩ := eq_of_nat? digits
  rw [UInt8.toNat_ofNat_of_lt' bound]

@[grind →]
theorem eq_of_bool? {i : Item} {b : Bool} (found : i.bool? = some b) :
    i = ofNat (if b then 1 else 0) := by
  unfold bool? at found
  split at found
  · rename_i zero
    cases found
    exact (eq_of_nat? zero).1
  · rename_i one
    cases found
    exact (eq_of_nat? one).1
  · cases found

@[grind →]
theorem eq_of_bytes? {i : Item} {b : Bytes} (found : i.bytes? = some b) : i = bytes b := by
  cases i with
  | bytes => cases found; rfl
  | list => cases found

@[grind →]
theorem eq_of_fixed? {n : Nat} {i : Item} {b : FixedBytes n} (found : i.fixed? n = some b) :
    i = ofFixed b := by
  cases i with
  | bytes payload => rw [FixedBytes.eq_of_ofList? found, ofFixed]
  | list => cases found

@[grind →]
theorem eq_of_recipient? {i : Item} {recipient : Option Address}
    (found : i.recipient? = some recipient) : i = ofRecipient recipient := by
  unfold recipient? at found
  split at found
  · cases found
    rfl
  · obtain ⟨a, address, rfl⟩ := Option.map_eq_some_iff.mp found
    exact eq_of_fixed? address

/-- A list whose members are read strictly is read strictly. -/
theorem eq_of_listOf? {α : Type} {item : α → Item} {member? : Item → Option α}
    (strict : ∀ {i a}, member? i = some a → i = item a) {i : Item} {list : List α}
    (found : i.listOf? member? = some list) : i = ofList (list.map item) := by
  obtain ⟨items, split, all⟩ := Option.bind_eq_some_iff.mp found
  have members : items = list.map item := by
    clear found split
    induction items generalizing list with
    | nil =>
      cases all
      rfl
    | cons j items ih =>
      simp only [List.mapM_cons, Option.bind_eq_bind, Option.bind_eq_some_iff] at all
      obtain ⟨a, first, rest, tail, same⟩ := all
      cases same
      rw [List.map_cons, ← strict first, ← ih tail]
  rw [eq_of_items? split, members]

end Item

end Rlp

end TxCourier
