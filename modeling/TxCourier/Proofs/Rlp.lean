import TxCourier.Rlp

/-! # Reading items back

An item is read back from its encoding whatever follows it, and the items of a list from the
encodings of its items. A header has room for lengths below `2 ^ 64`, so this is said of items whose
payloads are shorter. -/
namespace TxCourier

namespace Bytes

@[simp] theorem ofNat_zero : ofNat 0 = [] := by
  simp [ofNat]

theorem ofNat_of_pos {n : Nat} (pos : 0 < n) : ofNat n = ofNat (n / 256) ++ [n.toUInt8] := by
  rw [ofNat, if_neg (by omega)]

theorem ofNat_ne_nil {n : Nat} (pos : 0 < n) : ofNat n ≠ [] := by
  rw [ofNat_of_pos pos]
  simp

/-- The shortest form does not begin with a zero. -/
theorem head?_ofNat (n : Nat) : (ofNat n).head? ≠ some 0 := by
  induction n using Nat.strongRecOn with
  | _ n ih =>
    by_cases pos : 0 < n
    · rw [ofNat_of_pos pos]
      by_cases more : 0 < n / 256
      · have front := ih (n / 256) (by omega)
        obtain ⟨x, tail, digits⟩ := List.exists_cons_of_ne_nil (ofNat_ne_nil more)
        rw [digits] at front ⊢
        exact front
      · have none_left : n / 256 = 0 := by omega
        intro zero
        have digit : n.toUInt8 = 0 := by simpa [none_left, ofNat] using zero
        have value := congrArg UInt8.toNat digit
        simp only [Nat.toUInt8, UInt8.toNat_ofNat', UInt8.toNat_zero] at value
        omega
    · have zero : n = 0 := by omega
      subst zero
      simp

/-- A number below `256 ^ width` has at most `width` digits. -/
theorem length_ofNat_le {width n : Nat} (bound : n < Nat.pow 256 width) :
    (ofNat n).length ≤ width := by
  induction width generalizing n with
  | zero =>
    have zero : n = 0 := by simpa using bound
    subst zero
    simp
  | succ width ih =>
    by_cases pos : 0 < n
    · rw [ofNat_of_pos pos, List.length_append, List.length_singleton]
      have shorter : n / 256 < Nat.pow 256 width := by
        have step : Nat.pow 256 (width + 1) = Nat.pow 256 width * 256 := rfl
        omega
      exact Nat.succ_le_succ (ih shorter)
    · have zero : n = 0 := by omega
      subst zero
      simp

/-- A greater number has as many digits at least. -/
theorem length_ofNat_mono {m n : Nat} (le : m ≤ n) : (ofNat m).length ≤ (ofNat n).length := by
  induction n using Nat.strongRecOn generalizing m with
  | _ n ih =>
    by_cases pos : 0 < m
    · have shorter := ih (n / 256) (by omega) (show m / 256 ≤ n / 256 by omega)
      rw [ofNat_of_pos pos, ofNat_of_pos (show 0 < n by omega), List.length_append,
        List.length_append]
      exact Nat.succ_le_succ shorter
    · have zero : m = 0 := by omega
      subst zero
      simp

end Bytes

namespace Rlp

theorem cut?_append (a rest : Bytes) : cut? a.length (a ++ rest) = some (a, rest) := by
  simp [cut?, List.splitAt_eq]

theorem toNat_offset {base : UInt8} {n : Nat} (fits : base.toNat + n < 256) :
    (base + n.toUInt8).toNat = base.toNat + n := by
  rw [UInt8.toNat_add]
  simp only [Nat.toUInt8, UInt8.toNat_ofNat']
  omega

/-! ## Headers -/

theorem longLength?_ofNat {n : Nat} (long : 56 ≤ n) (rest : Bytes) :
    longLength? (Bytes.ofNat n).length (Bytes.ofNat n ++ rest) = some (n, rest) := by
  have front := Bytes.head?_ofNat n
  have value := Bytes.toNat_ofNat n
  simp only [longLength?, cut?_append, value]
  rw [if_neg]
  rintro (zero | short)
  · exact front zero
  · omega

/-- The length of a length takes one byte at least and eight at most. -/
theorem length_of_length {n : Nat} (long : 56 ≤ n) (bound : n < UInt64.size) :
    1 ≤ (Bytes.ofNat n).length ∧ (Bytes.ofNat n).length ≤ 8 := by
  constructor
  · exact List.length_pos_iff.mpr (Bytes.ofNat_ne_nil (by omega))
  · exact Bytes.length_ofNat_le bound

theorem Header.read?_string {n : Nat} (bound : n < UInt64.size) (rest : Bytes) :
    Header.read? (header 0x80 n ++ rest) = some (.string n, rest) := by
  unfold header
  split
  · rename_i short
    have first : ((0x80 : UInt8) + n.toUInt8).toNat = 128 + n := toNat_offset (by simp; omega)
    simp only [List.cons_append, List.nil_append, Header.read?, first]
    rw [if_neg (by omega), if_pos (by omega)]
    simp
  · rename_i long
    obtain ⟨lower, upper⟩ := length_of_length (by omega) bound
    have first : ((0x80 : UInt8) + 55 + (Bytes.ofNat n).length.toUInt8).toNat
        = 183 + (Bytes.ofNat n).length := toNat_offset (by simp; omega)
    simp only [List.cons_append, Header.read?, first]
    rw [if_neg (by omega), if_neg (by omega), if_pos (by omega), Nat.add_sub_cancel_left,
      longLength?_ofNat (by omega)]
    rfl

theorem Header.read?_list {n : Nat} (bound : n < UInt64.size) (rest : Bytes) :
    Header.read? (header 0xc0 n ++ rest) = some (.list n, rest) := by
  unfold header
  split
  · rename_i short
    have first : ((0xc0 : UInt8) + n.toUInt8).toNat = 192 + n := toNat_offset (by simp; omega)
    simp only [List.cons_append, List.nil_append, Header.read?, first]
    rw [if_neg (by omega), if_neg (by omega), if_neg (by omega), if_pos (by omega)]
    simp
  · rename_i long
    obtain ⟨lower, upper⟩ := length_of_length (by omega) bound
    have first : ((0xc0 : UInt8) + 55 + (Bytes.ofNat n).length.toUInt8).toNat
        = 247 + (Bytes.ofNat n).length := toNat_offset (by simp; omega)
    simp only [List.cons_append, Header.read?, first]
    rw [if_neg (by omega), if_neg (by omega), if_neg (by omega), if_neg (by omega),
      Nat.add_sub_cancel_left, longLength?_ofNat (by omega)]
    rfl

/-! ## Items -/

namespace Item

/-- The bytes behind the header. -/
def payload : Item → Bytes
  | bytes b => b
  | list b => b

/-- A header has room for the length of the item. -/
def Fits (i : Item) : Prop := i.payload.length < UInt64.size

theorem encode_bare (x : UInt8) (bare : x < 0x80) : (bytes [x]).encode = [x] := by
  simp [encode, bare]

theorem encode_bytes {b : Bytes} (headed : isBare b = false) :
    (bytes b).encode = header 0x80 b.length ++ b := by
  match b, headed with
  | [], _ => rfl
  | [x], headed =>
    have large : ¬ x < 0x80 := by simpa [isBare] using headed
    simp only [encode, if_neg large]
    rfl
  | _ :: _ :: _, _ => rfl

/-- An item is read back from its encoding whatever follows it. -/
theorem read?_encode {i : Item} (fits : i.Fits) (rest : Bytes) :
    read? (i.encode ++ rest) = some (i, rest) := by
  cases i with
  | list b =>
    have bound : b.length < UInt64.size := fits
    simp only [encode, List.append_assoc, read?, Header.read?_list bound, cut?_append]
    rfl
  | bytes b =>
    have bound : b.length < UInt64.size := fits
    cases headed : isBare b with
    | false =>
      rw [encode_bytes headed, List.append_assoc]
      simp only [read?, Header.read?_string bound, cut?_append, headed]
      rfl
    | true =>
      match b, headed with
      | [x], headed =>
        have bare : x < 0x80 := by simpa [isBare] using headed
        rw [encode_bare x bare]
        have small : x.toNat < 0x80 := bare
        simp [read?, Header.read?, small]

theorem length_payload_le (i : Item) : i.payload.length ≤ i.encode.length := by
  cases i with
  | list b => simp [payload, encode]
  | bytes b =>
    cases headed : isBare b with
    | false => simp [payload, encode_bytes headed]
    | true =>
      match b, headed with
      | [x], headed => simp [payload, encode_bare x (by simpa [isBare] using headed)]

theorem length_header_mono (base : UInt8) {m n : Nat} (le : m ≤ n) :
    (header base m).length ≤ (header base n).length := by
  have digits := Bytes.length_ofNat_mono le
  unfold header
  split <;> split <;> simp <;> omega

/-- The list of more bytes has the longer encoding. -/
theorem length_encode_list_lt {a b : Bytes} (longer : a.length < b.length) :
    (list a).encode.length < (list b).encode.length := by
  have headers := length_header_mono 0xc0 (Nat.le_of_lt longer)
  simp only [encode, List.length_append]
  omega

theorem length_encode_le {i : Item} {items : List Item} (member : i ∈ items) :
    i.encode.length ≤ (encodeAll items).length := by
  obtain ⟨front, back, rfl⟩ := List.append_of_mem member
  simp only [encodeAll, List.flatMap_append, List.flatMap_cons, List.length_append]
  omega

/-- What is in a list is shorter than the list. -/
theorem Fits.of_mem {i : Item} {items : List Item} (fits : (ofList items).Fits)
    (member : i ∈ items) : i.Fits := by
  have inner := length_payload_le i
  have outer := length_encode_le member
  have whole : (encodeAll items).length < UInt64.size := fits
  unfold Fits
  omega

end Item

/-! ## Lists -/

theorem readAllFrom_of_read? {b rest : Bytes} {i : Item} (found : Item.read? b = some (i, rest))
    (read : List Item) : readAllFrom b read = readAllFrom rest (i :: read) := by
  cases b with
  | nil => cases found
  | cons x tail =>
    rw [readAllFrom]
    split
    · rename_i missing
      rw [found] at missing
      cases missing
    · rename_i other
      rw [found] at other
      cases other
      rfl

theorem readAllFrom_encodeAll {items : List Item} (fits : ∀ i ∈ items, i.Fits)
    (read : List Item) : readAllFrom (encodeAll items) read = some (read.reverse ++ items) := by
  induction items generalizing read with
  | nil => simp [encodeAll, readAllFrom]
  | cons i items ih =>
    have first : Item.read? (encodeAll (i :: items)) = some (i, encodeAll items) :=
      Item.read?_encode (fits i (by simp)) (encodeAll items)
    rw [readAllFrom_of_read? first, ih fun j member => fits j (by simp [member])]
    simp

namespace Item

/-- The items of a list are read back from it. -/
theorem items?_ofList {items : List Item} (fits : (ofList items).Fits) :
    (ofList items).items? = some items := by
  have read := readAllFrom_encodeAll (fun _ => fits.of_mem) []
  simpa [items?, ofList, readAll?] using read

/-- A list is determined by its encoding. -/
theorem ofList_injective {a b : List Item} (fits : (ofList a).Fits) (same : ofList a = ofList b) :
    a = b := by
  have left := items?_ofList fits
  rw [same] at fits left
  exact Option.some.inj (left.symm.trans (items?_ofList fits))

/-! ## Members of a list -/

theorem nat?_ofNat {width n : Nat} (bound : n < Nat.pow 256 width) :
    (ofNat n).nat? width = some n := by
  have short := Bytes.length_ofNat_le bound
  have value := Bytes.toNat_ofNat n
  simp only [ofNat, nat?, value]
  rw [if_neg]
  rintro (zero | long)
  · exact Bytes.head?_ofNat n zero
  · omega

@[simp] theorem word?_ofWord (w : Word) : (ofWord w).word? = some w := by
  have bound : w.toNat < Nat.pow 256 32 := w.isLt
  simp [word?, ofWord, nat?_ofNat bound]

@[simp] theorem fee?_ofNat (f : Fee) : (ofNat f.toNat).fee? = some f := by
  have bound : f.toNat < Nat.pow 256 16 := f.isLt
  simp [fee?, nat?_ofNat bound]

@[simp] theorem uint64?_ofUInt64 (n : UInt64) : (ofUInt64 n).uint64? = some n := by
  have bound : n.toNat < Nat.pow 256 8 := n.toNat_lt
  simp [uint64?, ofUInt64, nat?_ofNat bound]

@[simp] theorem uint8?_ofNat (n : UInt8) : (ofNat n.toNat).uint8? = some n := by
  have bound : n.toNat < Nat.pow 256 1 := n.toNat_lt
  simp [uint8?, nat?_ofNat bound]

@[simp] theorem bool?_ofNat (b : Bool) : (ofNat (if b then 1 else 0)).bool? = some b := by
  cases b with
  | false => simp [bool?, nat?_ofNat (show 0 < Nat.pow 256 1 by decide)]
  | true => simp [bool?, nat?_ofNat (show 1 < Nat.pow 256 1 by decide)]

@[simp] theorem fixed?_ofFixed {n : Nat} (b : FixedBytes n) : (ofFixed b).fixed? n = some b := by
  simp [fixed?, ofFixed]

@[simp] theorem bytes?_bytes (b : Bytes) : (bytes b).bytes? = some b := rfl

@[simp] theorem fixed?_ofRecipient (a : Address) : (ofRecipient (some a)).fixed? 20 = some a :=
  fixed?_ofFixed a

/-- No recipient is the empty string, which is no address. -/
@[simp] theorem recipient?_ofRecipient (recipient : Option Address) :
    (ofRecipient recipient).recipient? = some recipient := by
  cases recipient with
  | none => rfl
  | some a =>
    obtain ⟨octets, length⟩ := a
    match octets, length with
    | x :: tail, length =>
      simp [ofRecipient, ofFixed, recipient?, fixed?, FixedBytes.ofList?, length]

/-- A list is read back where each of its members is. -/
theorem listOf?_ofList {α : Type} {item : α → Item} {member? : Item → Option α} {list : List α}
    (fits : (ofList (list.map item)).Fits) (reads : ∀ a ∈ list, member? (item a) = some a) :
    (ofList (list.map item)).listOf? member? = some list := by
  have all : (list.map item).mapM member? = some list := by
    clear fits
    induction list with
    | nil => rfl
    | cons a list ih =>
      have tail := ih fun b member => reads b (by simp [member])
      simp [reads a (by simp), tail]
  simp [listOf?, items?_ofList fits, all]

end Item

end Rlp

end TxCourier
