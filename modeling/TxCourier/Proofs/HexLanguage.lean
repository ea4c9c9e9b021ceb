import TxCourier.Proofs.LenientHex

/-! # The texts that the lenient reader takes

They are digits alone behind one prefix or none, and what is read are the bytes whose nibbles are
the values of the digits, with a zero in front where the digits are odd in number. A prefix that is
put in front changes neither what is read nor how the reader fails. Which octet a failure names is
not held here. -/
namespace TxCourier.Hex

/-! ## Digits -/

/-- The sixteen digits, each at the place that is its value. -/
def alphabet : List Char :=
  ['0', '1', '2', '3', '4', '5', '6', '7', '8', '9', 'a', 'b', 'c', 'd', 'e', 'f']

/-- A hexadecimal digit of either case. -/
def IsDigit (c : Char) : Prop := c.toLower ∈ alphabet

instance (c : Char) : Decidable (IsDigit c) := inferInstanceAs (Decidable (c.toLower ∈ alphabet))

/-- The value of a digit of either case. -/
def nibble (c : Char) : Nat := alphabet.idxOf c.toLower

theorem isDigit_zero : IsDigit '0' := by decide

theorem value?_eq_ite (c : Char) : value? c = if IsDigit c then some (nibble c) else none := by
  by_cases ascii : c.toNat < 128
  -- The characters that may be digits are few enough to try them all.
  · have all : ∀ n < 128, value? (Char.ofNat n)
        = if IsDigit (Char.ofNat n) then some (nibble (Char.ofNat n)) else none := by decide
    have same := all c.toNat ascii
    rw [Char.ofNat_toNat] at same
    exact same
  · have small : alphabet.all (fun d => d.toNat < 128) = true := by decide
    have other : ¬IsDigit c := by
      intro member
      have below := of_decide_eq_true (List.all_eq_true.mp small _ member)
      rw [toNat_toLower] at below
      split at below <;> omega
    rw [if_neg other]
    rcases Option.eq_none_or_eq_some (value? c) with unread | ⟨n, value⟩
    · exact unread
    · exact absurd (toNat_lt_of_value? (Option.isSome_of_eq_some value)) ascii

theorem value?_eq_some_iff {c : Char} {n : Nat} : value? c = some n ↔ IsDigit c ∧ nibble c = n := by
  rw [value?_eq_ite]
  by_cases digit : IsDigit c
  · rw [if_pos digit, Option.some.injEq]
    exact (and_iff_right digit).symm
  · rw [if_neg digit]
    exact iff_of_false (nomatch ·) fun read => digit read.1

theorem map_value?_eq_iff {cs : List Char} {ns : List Nat} :
    cs.map value? = ns.map some ↔ (∀ c ∈ cs, IsDigit c) ∧ cs.map nibble = ns := by
  induction cs generalizing ns with
  | nil =>
    rw [List.map_nil, List.map_nil, List.nil_eq, List.map_eq_nil_iff, List.nil_eq]
    exact (and_iff_right (List.forall_mem_nil _)).symm
  | cons c cs ih =>
    cases ns with
    | nil => simp
    | cons n ns =>
      rw [List.map_cons, List.map_cons, List.map_cons, List.cons.injEq, List.cons.injEq, ih,
        value?_eq_some_iff, List.forall_mem_cons]
      exact and_and_and_comm

/-! ## Prefixes -/

/-- What may stand in front of the digits. -/
def marks : List String := ["", "0x", "0X"]

theorem exists_mark (s : String) :
    ∃ mark ∈ marks, s = mark ++ String.ofList (afterPrefix s.toList) := by
  have taken {mark : String} {rest : List Char} (text : s.toList = mark.toList ++ rest) :
      s = mark ++ String.ofList rest := by
    rw [← String.toList_inj, String.toList_append, String.toList_ofList, text]
  by_cases marked : IsMarked s.toList
  · obtain ⟨rest, text | text⟩ := marked
    · refine ⟨"0x", by decide, ?_⟩
      rw [text]
      exact taken text
    · refine ⟨"0X", by decide, ?_⟩
      rw [text]
      exact taken text
  · refine ⟨"", by decide, ?_⟩
    rw [afterPrefix_of_plain marked]
    exact taken rfl

/-- No digit is taken for a part of a prefix. -/
theorem afterPrefix_mark {mark d : String} (member : mark ∈ marks)
    (digits : ∀ c ∈ d.toList, IsDigit c) : afterPrefix (mark ++ d).toList = d.toList := by
  rw [String.toList_append]
  rcases List.mem_cons.mp member with rfl | member
  · change afterPrefix d.toList = d.toList
    apply afterPrefix_of_plain
    rintro ⟨rest, text | text⟩
    · exact absurd (digits 'x' (by simp [text])) (by decide)
    · exact absurd (digits 'X' (by simp [text])) (by decide)
  · rcases List.mem_cons.mp member with rfl | member
    · rfl
    · rw [List.mem_singleton.mp member]
      rfl

theorem decodeLenient_withPrefix (s : String) : decodeLenient (withPrefix s) = decodeLenient s := by
  have same : withoutPrefix (withPrefix s) = withoutPrefix s :=
    congrArg String.ofList (afterPrefix_withPrefix s)
  rw [decodeLenient_eq, decodeLenient_eq, paddedOctets, paddedOctets, same]

theorem withPrefix_withPrefix (s : String) : withPrefix (withPrefix s) = withPrefix s := by
  by_cases marked : IsMarked s.toList
  · rw [withPrefix_of_marked marked, withPrefix_of_marked marked]
  · apply withPrefix_of_marked
    rw [withPrefix_of_plain marked, String.toList_append]
    exact ⟨s.toList, .inl rfl⟩

/-! ## The language -/

theorem decodeLenient_eq_ok_iff_digits {s : String} {b : Bytes} :
    decodeLenient s = .ok b ↔
      (∀ c ∈ afterPrefix s.toList, IsDigit c) ∧
        (padded (afterPrefix s.toList)).map nibble = nibbles b := by
  rw [decodeLenient_eq_ok_iff, bytes?_eq_some_iff, map_value?_eq_iff,
    forall_mem_padded_iff isDigit_zero]

theorem decodeLenient_eq_ok_iff_exists {s : String} {b : Bytes} :
    decodeLenient s = .ok b ↔ ∃ mark ∈ marks, ∃ d : String, s = mark ++ d ∧
      (∀ c ∈ d.toList, IsDigit c) ∧ (padded d.toList).map nibble = nibbles b := by
  rw [decodeLenient_eq_ok_iff_digits]
  constructor
  · rintro ⟨digits, values⟩
    obtain ⟨mark, member, whole⟩ := exists_mark s
    refine ⟨mark, member, _, whole, ?_⟩
    rw [String.toList_ofList]
    exact ⟨digits, values⟩
  · rintro ⟨mark, member, d, rfl, digits, values⟩
    rw [afterPrefix_mark member digits]
    exact ⟨digits, values⟩

theorem spells_of_lowered {mark d : String} {b : Bytes} (member : mark ∈ marks)
    (lowered : d.toList.map Char.toLower = digits b) : Spells (mark ++ d) b := by
  have written := bytes?_eq_some_iff.mp (bytes?_of_lowered lowered)
  obtain ⟨only, -⟩ := map_value?_eq_iff.mp written
  rw [Spells, afterPrefix_mark member only]
  exact lowered

/-- The reader takes digits alone behind one prefix or none, and reads the bytes whose nibbles they
are, with a zero in front where they are odd in number. So the digits of any bytes are read back as
them in either case and behind either prefix. To put a prefix in front changes neither what is read
nor the failure, and is done no more than once. -/
theorem decodeLenient_takes_digits_alone :
    (∀ s b, decodeLenient s = .ok b ↔ ∃ mark ∈ marks, ∃ d : String, s = mark ++ d ∧
      (∀ c ∈ d.toList, IsDigit c) ∧ (padded d.toList).map nibble = nibbles b) ∧
    (∀ (b : Bytes), ∀ mark ∈ marks, ∀ d : String, d.toList.map Char.toLower = digits b →
      decodeLenient (mark ++ d) = .ok b) ∧
    (∀ s, decodeLenient (withPrefix s) = decodeLenient s) ∧
    (∀ s, withPrefix (withPrefix s) = withPrefix s) := by
  refine ⟨?_, ?_, decodeLenient_withPrefix, withPrefix_withPrefix⟩
  · intro s b
    exact decodeLenient_eq_ok_iff_exists
  · intro b mark member d lowered
    exact decodeLenient_of_spells (spells_of_lowered member lowered)

theorem decodeLenient_takes_digits_alone_mixedCase :
    decodeLenient "0XaBc" = .ok [0x0a, 0xbc] ∧
    "C0fFee".toList.map Char.toLower = digits [0xc0, 0xff, 0xee] ∧
    decodeLenient ("0X" ++ "C0fFee") = .ok [0xc0, 0xff, 0xee] := by
  refine ⟨(decodeLenient_takes_digits_alone.1 _ _).mpr ?_, by decide, ?_⟩
  · have digits : "aBc".toList.all (fun c => IsDigit c) = true := by decide
    refine ⟨"0X", by decide, "aBc", rfl, ?_, by decide⟩
    exact fun c member => of_decide_eq_true (List.all_eq_true.mp digits c member)
  · exact decodeLenient_takes_digits_alone.2.1 _ "0X" (by decide) "C0fFee" (by decide)

end TxCourier.Hex
