import TxCourier.Proofs.HexText
import TxCourier.Proofs.Utf8

/-! # The lenient reader of digits

Digits of either case are read as the bytes that they write, with a prefix in front of them or none.
A text that has anything else in it is not read, and what is said of it is not held here. -/
namespace TxCourier.Hex

/-- The text writes some bytes in hexadecimal, in digits of either case and with either prefix or
none. -/
def Spells (text : String) (b : Bytes) : Prop :=
  (afterPrefix text.toList).map Char.toLower = digits b

/-! ## The prefix -/

/-- The text begins with one of the two prefixes. -/
def IsMarked (cs : List Char) : Prop := ∃ rest, cs = '0' :: 'x' :: rest ∨ cs = '0' :: 'X' :: rest

theorem afterPrefix_of_plain {cs : List Char} (plain : ¬IsMarked cs) : afterPrefix cs = cs := by
  unfold afterPrefix
  split
  · exact absurd ⟨_, .inl rfl⟩ plain
  · exact absurd ⟨_, .inr rfl⟩ plain
  · rfl

theorem withPrefix_of_plain {s : String} (plain : ¬IsMarked s.toList) :
    withPrefix s = "0x" ++ s := by
  unfold withPrefix
  split
  · rename_i rest text
    exact absurd ⟨rest, .inl text⟩ plain
  · rename_i rest text
    exact absurd ⟨rest, .inr text⟩ plain
  · rfl

theorem withPrefix_of_marked {s : String} (marked : IsMarked s.toList) : withPrefix s = s := by
  unfold withPrefix
  split
  · rfl
  · rfl
  · rename_i lower upper
    obtain ⟨rest, text | text⟩ := marked
    · exact absurd text (lower rest)
    · exact absurd text (upper rest)

theorem afterPrefix_withPrefix (s : String) :
    afterPrefix (withPrefix s).toList = afterPrefix s.toList := by
  by_cases marked : IsMarked s.toList
  · rw [withPrefix_of_marked marked]
  · rw [withPrefix_of_plain marked, afterPrefix_of_plain marked, String.toList_append]
    rfl

/-- What stands in front of the digits are no more than the two characters of a prefix. -/
theorem mem_of_afterPrefix {cs : List Char} {c : Char} (member : c ∈ cs) :
    c = '0' ∨ c = 'x' ∨ c = 'X' ∨ c ∈ afterPrefix cs := by
  by_cases marked : IsMarked cs
  · obtain ⟨rest, rfl | rfl⟩ := marked
    · rcases List.mem_cons.mp member with zero | member
      · exact .inl zero
      · rcases List.mem_cons.mp member with mark | member
        · exact .inr (.inl mark)
        · exact .inr (.inr (.inr member))
    · rcases List.mem_cons.mp member with zero | member
      · exact .inl zero
      · rcases List.mem_cons.mp member with mark | member
        · exact .inr (.inr (.inl mark))
        · exact .inr (.inr (.inr member))
  · rw [afterPrefix_of_plain marked]
    exact .inr (.inr (.inr member))

/-! ## The case of the digits -/

theorem toNat_toLower (c : Char) :
    c.toLower.toNat = if 65 ≤ c.toNat ∧ c.toNat ≤ 90 then c.toNat + 32 else c.toNat := by
  have upper : (c.val ≥ 'A'.val ∧ c.val ≤ 'Z'.val) ↔ 65 ≤ c.toNat ∧ c.toNat ≤ 90 := by
    rw [ge_iff_le, UInt32.le_iff_toNat_le, UInt32.le_iff_toNat_le]
    exact Iff.rfl
  unfold Char.toLower
  split
  · rename_i capital
    have range := upper.mp capital
    rw [if_pos range]
    change (c.val + ('a'.val - 'A'.val)).toNat = c.val.toNat + 32
    have small : c.val.toNat ≤ 90 := range.2
    rw [UInt32.toNat_add]
    change (c.val.toNat + 32) % 2 ^ 32 = c.val.toNat + 32
    omega
  · rename_i other
    rw [if_neg (mt upper.mpr other)]

theorem value?_toLower (c : Char) : value? c.toLower = value? c := by
  unfold value?
  rw [toNat_toLower]
  by_cases upper : 65 ≤ c.toNat ∧ c.toNat ≤ 90
  · rw [if_pos upper]
    grind
  · rw [if_neg upper]

/-! ## Nibbles -/

/-- The halves of some bytes, the high one of each first. -/
def nibbles (b : Bytes) : List Nat := b.flatMap fun x => [x.toNat / 16, x.toNat % 16]

theorem nibbles_cons (x : UInt8) (rest : Bytes) :
    nibbles (x :: rest) = x.toNat / 16 :: x.toNat % 16 :: nibbles rest := rfl

theorem toNat_joined {high low : Nat} (left : high < 16) (right : low < 16) :
    (16 * high + low).toUInt8.toNat = 16 * high + low := by
  change (UInt8.ofNat (16 * high + low)).toNat = 16 * high + low
  rw [Utf8.toNat_ofNat_of_lt (by omega)]

theorem lt_of_value? {c : Char} {n : Nat} (value : value? c = some n) : n < 16 := by
  simp only [value?] at value
  split at value
  · cases value; omega
  · split at value
    · cases value; omega
    · split at value
      · cases value; omega
      · cases value

/-- What is read are the bytes whose nibbles are the values of the digits. -/
theorem bytesFrom_eq_some_iff {cs : List Char} {read b : Bytes} :
    bytesFrom cs read = some b ↔
      ∃ more, b = read.reverse ++ more ∧ cs.map value? = (nibbles more).map some := by
  fun_induction bytesFrom cs read with
  | case1 read =>
    constructor
    · rintro ⟨⟩
      exact ⟨[], (List.append_nil _).symm, rfl⟩
    · rintro ⟨more, rfl, values⟩
      cases more with
      | nil => rw [List.append_nil]
      | cons x more => cases values
  | case2 c read =>
    constructor
    · intro unread
      cases unread
    · rintro ⟨more, -, values⟩
      cases more with
      | nil => cases values
      | cons x more => cases (List.cons.inj values).2
  | case3 a c rest read high low right left ih =>
    rw [ih]
    constructor
    · rintro ⟨more, rfl, values⟩
      have whole := toNat_joined (lt_of_value? left) (lt_of_value? right)
      have small := lt_of_value? right
      refine ⟨(16 * high + low).toUInt8 :: more, ?_, ?_⟩
      · rw [List.reverse_cons, List.append_assoc]
        rfl
      · rw [nibbles_cons, whole, List.map_cons, List.map_cons, List.map_cons, List.map_cons, left,
          right, values, show (16 * high + low) / 16 = high by omega,
          show (16 * high + low) % 16 = low by omega]
    · rintro ⟨more, rfl, values⟩
      cases more with
      | nil => cases values
      | cons x more =>
        obtain ⟨first, values⟩ := List.cons.inj values
        obtain ⟨second, values⟩ := List.cons.inj values
        cases left.symm.trans first
        cases right.symm.trans second
        refine ⟨more, ?_, values⟩
        rw [joined_halves, List.reverse_cons, List.append_assoc]
        rfl
  | case4 a c rest read unread =>
    constructor
    · intro none
      cases none
    · rintro ⟨more, -, values⟩
      cases more with
      | nil => cases values
      | cons x more =>
        obtain ⟨first, values⟩ := List.cons.inj values
        exact (unread _ _ first (List.cons.inj values).1).elim

theorem bytes?_eq_some_iff {cs : List Char} {b : Bytes} :
    bytes? cs = some b ↔ cs.map value? = (nibbles b).map some := by
  rw [bytes?, bytesFrom_eq_some_iff]
  constructor
  · rintro ⟨more, rfl, values⟩
    exact values
  · intro values
    exact ⟨b, rfl, values⟩

theorem map_value?_digits (b : Bytes) : (digits b).map value? = (nibbles b).map some :=
  bytes?_eq_some_iff.mp (bytesFrom_digits b [])

/-- The reader looks at the values of the digits alone. -/
theorem bytes?_of_lowered {cs : List Char} {b : Bytes} (lowered : cs.map Char.toLower = digits b) :
    bytes? cs = some b := by
  rw [bytes?_eq_some_iff, ← map_value?_digits, ← lowered, List.map_map]
  exact List.map_congr_left fun c _ => (value?_toLower c).symm

theorem isSome_of_bytes? {cs : List Char} {b : Bytes} (read : bytes? cs = some b) {c : Char}
    (member : c ∈ cs) : (value? c).isSome = true := by
  have value : value? c ∈ (nibbles b).map some := by
    rw [← bytes?_eq_some_iff.mp read]
    exact List.mem_map_of_mem member
  obtain ⟨n, -, same⟩ := List.mem_map.mp value
  rw [← same]
  rfl

theorem Spells.isSome_value? {text : String} {b : Bytes} (spells : Spells text b) {c : Char}
    (member : c ∈ afterPrefix text.toList) : (value? c).isSome = true :=
  isSome_of_bytes? (bytes?_of_lowered spells) member

theorem exists_bytesFrom {cs : List Char} (digits : ∀ c ∈ cs, (value? c).isSome = true)
    (even : cs.length % 2 = 0) (read : Bytes) : ∃ b, bytesFrom cs read = some b := by
  fun_induction bytesFrom cs read with
  | case1 read => exact ⟨_, rfl⟩
  | case2 c read => cases even
  | case3 a c rest read high low right left ih =>
    refine ih (fun d member => digits d ?_) ?_
    · exact List.mem_cons_of_mem a (List.mem_cons_of_mem c member)
    · rw [List.length_cons, List.length_cons] at even
      omega
  | case4 a c rest read unread =>
    obtain ⟨high, left⟩ := Option.isSome_iff_exists.mp (digits a List.mem_cons_self)
    obtain ⟨low, right⟩ := Option.isSome_iff_exists.mp
      (digits c (List.mem_cons_of_mem a List.mem_cons_self))
    exact (unread high low left right).elim

/-! ## The octets of digits -/

theorem toNat_lt_of_value? {c : Char} (digit : (value? c).isSome = true) : c.toNat < 128 := by
  unfold value? at digit
  dsimp only at digit
  split at digit
  · omega
  · split at digit
    · omega
    · split at digit
      · omega
      · cases digit

theorem utf8EncodeChar_of_ascii {c : Char} (ascii : c.toNat < 128) :
    String.utf8EncodeChar c = [UInt8.ofNat c.toNat] :=
  if_pos (show c.val.toNat ≤ 127 from Nat.le_of_lt_succ ascii)

/-- A digit has one octet, which is its number. -/
theorem octets_ofList {cs : List Char} (digits : ∀ c ∈ cs, (value? c).isSome = true) :
    octets (String.ofList cs) = cs.map fun c => UInt8.ofNat c.toNat := by
  have single (c : Char) (member : c ∈ cs) : String.utf8EncodeChar c = [UInt8.ofNat c.toNat] :=
    utf8EncodeChar_of_ascii (toNat_lt_of_value? (digits c member))
  rw [octets_eq, String.toList_ofList, List.map_eq_flatMap, List.flatMap_def, List.flatMap_def,
    List.map_congr_left single]

/-- A character that is more than one octet has one that is no digit. -/
theorem exists_octet_of_wide {c : Char} (wide : 128 ≤ c.toNat) :
    ∃ x ∈ String.utf8EncodeChar c, 128 ≤ x.toNat := by
  have number : 128 ≤ c.val.toNat := wide
  unfold String.utf8EncodeChar
  dsimp only
  split
  · omega
  · split
    · refine ⟨_, List.mem_cons_self, ?_⟩
      rw [Utf8.toNat_ofNat_of_lt (by omega)]
      omega
    · split
      · refine ⟨_, List.mem_cons_self, ?_⟩
        rw [Utf8.toNat_ofNat_of_lt (by omega)]
        omega
      · refine ⟨_, List.mem_cons_self, ?_⟩
        rw [Utf8.toNat_ofNat_of_lt (by omega)]
        omega

theorem isSome_of_octets {cs : List Char}
    (octal : ∀ x ∈ octets (String.ofList cs), (value? (Char.ofNat x.toNat)).isSome = true)
    {c : Char} (member : c ∈ cs) : (value? c).isSome = true := by
  have within : ∀ x ∈ String.utf8EncodeChar c, x ∈ octets (String.ofList cs) := by
    intro x inside
    rw [octets_eq, String.toList_ofList]
    exact List.mem_flatMap.mpr ⟨c, member, inside⟩
  by_cases ascii : c.toNat < 128
  · have digit := octal _ (within _ (utf8EncodeChar_of_ascii ascii ▸ List.mem_cons_self))
    rw [Utf8.toNat_ofNat_of_lt (by omega), Char.ofNat_toNat] at digit
    exact digit
  · obtain ⟨x, inside, wide⟩ := exists_octet_of_wide (show 128 ≤ c.toNat by omega)
    have octet : x.toNat < 256 := x.toNat_lt
    have small := toNat_lt_of_value? (octal x (within x inside))
    have valid : Nat.isValidChar x.toNat := .inl (by omega)
    have number : (Char.ofNat x.toNat).toNat = x.toNat := by
      rw [Char.ofNat, dif_pos valid]
      rfl
    omega

theorem firstBad_eq_none_iff {b : Bytes} (position : Nat) :
    firstBad position b = none ↔ ∀ x ∈ b, (value? (Char.ofNat x.toNat)).isSome = true := by
  induction b generalizing position with
  | nil => simp [firstBad]
  | cons x rest ih =>
    rw [firstBad, List.forall_mem_cons, ← ih (position + 1)]
    cases value? (Char.ofNat x.toNat) with
    | none => simp
    | some n => simp

/-! ## The lenient reader -/

/-- The digits with a zero in front where they are odd in number. -/
def padded (cs : List Char) : List Char := if cs.length % 2 = 1 then '0' :: cs else cs

theorem padded_of_even {cs : List Char} (even : cs.length % 2 = 0) : padded cs = cs :=
  if_neg (by omega)

theorem length_padded_even (cs : List Char) : (padded cs).length % 2 = 0 := by
  unfold padded
  split
  · rw [List.length_cons]
    omega
  · omega

theorem forall_mem_padded_iff {P : Char → Prop} (zero : P '0') {cs : List Char} :
    (∀ c ∈ padded cs, P c) ↔ ∀ c ∈ cs, P c := by
  unfold padded
  split
  · rw [List.forall_mem_cons]
    exact and_iff_right zero
  · exact Iff.rfl

/-- The octets behind the prefix, with a zero in front where they are odd in number. -/
def paddedOctets (s : String) : Bytes :=
  if (octets (withoutPrefix s)).length % 2 = 1 then 48 :: octets (withoutPrefix s)
  else octets (withoutPrefix s)

theorem mem_paddedOctets {s : String} {x : UInt8} (member : x ∈ octets (withoutPrefix s)) :
    x ∈ paddedOctets s := by
  unfold paddedOctets
  split
  · exact List.mem_cons_of_mem 48 member
  · exact member

theorem paddedOctets_of_digits {s : String}
    (digits : ∀ c ∈ afterPrefix s.toList, (value? c).isSome = true) :
    paddedOctets s = (padded (afterPrefix s.toList)).map fun c => UInt8.ofNat c.toNat := by
  rw [paddedOctets, withoutPrefix, octets_ofList digits, List.length_map, padded]
  split
  · rfl
  · rfl

theorem decodeLenient_eq (s : String) :
    decodeLenient s =
      match firstBad 0 (paddedOctets s) with
      | some bad => .error bad
      | none => .ok ((bytes? ((paddedOctets s).map fun x => Char.ofNat x.toNat)).getD []) := rfl

/-- Digits are read as they are, with the zero that they may lack. -/
theorem decodeLenient_of_digits {s : String}
    (digits : ∀ c ∈ afterPrefix s.toList, (value? c).isSome = true) :
    decodeLenient s = .ok ((bytes? (padded (afterPrefix s.toList))).getD []) := by
  have octal := paddedOctets_of_digits digits
  have all := (forall_mem_padded_iff (by decide)).mpr digits
  -- The reader goes from characters to octets and back; on digits that loses nothing.
  have same (c : Char) (member : c ∈ padded (afterPrefix s.toList)) :
      Char.ofNat (UInt8.ofNat c.toNat).toNat = c := by
    have ascii := toNat_lt_of_value? (all c member)
    rw [Utf8.toNat_ofNat_of_lt (by omega), Char.ofNat_toNat]
  have back : (paddedOctets s).map (fun x => Char.ofNat x.toNat)
      = padded (afterPrefix s.toList) := by
    rw [octal, List.map_map]
    exact (List.map_congr_left same).trans (List.map_id _)
  have good : firstBad 0 (paddedOctets s) = none := by
    rw [firstBad_eq_none_iff]
    intro x member
    refine all _ ?_
    rw [← back]
    exact List.mem_map_of_mem member
  rw [decodeLenient_eq, good, back]

theorem digits_of_decodeLenient {s : String} {b : Bytes} (read : decodeLenient s = .ok b) :
    ∀ c ∈ afterPrefix s.toList, (value? c).isSome = true := by
  rw [decodeLenient_eq] at read
  cases found : firstBad 0 (paddedOctets s) with
  | some bad =>
    rw [found] at read
    cases read
  | none =>
    have good := (firstBad_eq_none_iff 0).mp found
    intro c member
    exact isSome_of_octets (fun x inside => good x (mem_paddedOctets inside)) member

theorem decodeLenient_eq_ok_iff {s : String} {b : Bytes} :
    decodeLenient s = .ok b ↔ bytes? (padded (afterPrefix s.toList)) = some b := by
  constructor
  · intro read
    have digits := digits_of_decodeLenient read
    have all := (forall_mem_padded_iff (by decide)).mpr digits
    obtain ⟨whole, written⟩ := exists_bytesFrom all (length_padded_even _) []
    rw [decodeLenient_of_digits digits, bytes?, written] at read
    cases read
    exact written
  · intro written
    have all := fun c member => isSome_of_bytes? (c := c) written member
    rw [decodeLenient_of_digits ((forall_mem_padded_iff (by decide)).mp all), written]
    rfl

theorem length_digits (b : Bytes) : (digits b).length = 2 * b.length := by
  induction b with
  | nil => rfl
  | cons x rest ih =>
    have split : digits (x :: rest)
        = digit (x.toNat / 16) :: digit (x.toNat % 16) :: digits rest := rfl
    rw [split, List.length_cons, List.length_cons, ih, List.length_cons]
    omega

/-- What writes some bytes is read as them. -/
theorem decodeLenient_of_spells {text : String} {b : Bytes} (spells : Spells text b) :
    decodeLenient text = .ok b := by
  have length : (afterPrefix text.toList).length = 2 * b.length := by
    rw [← length_digits, ← spells, List.length_map]
  rw [decodeLenient_eq_ok_iff, padded_of_even (by omega)]
  exact bytes?_of_lowered spells

end TxCourier.Hex
