import TxCourier.Proofs.AbiLayout
import TxCourier.Proofs.AbiTypes
import TxCourier.Proofs.Utf8

/-! # What is encoded is read back

Reading gives back the values that were encoded, whatever bytes follow, as long as readings are not
nested deeper than allowed. The types decide how deep that is, and their values do not matter. That
only encodings are read is not so: padding and distances are not looked at. -/
namespace TxCourier.Abi

/-! ## Values and their types -/

theorem AllOfType.hasType {items : List AbiValue} {t : AbiType} (typed : AllOfType items t) :
    ∀ v ∈ items, HasType v t := by
  induction items with
  | nil => simp
  | cons v rest ih =>
    cases typed with
    | cons first later =>
      intro other member
      rcases List.mem_cons.mp member with rfl | member
      · exact first
      · exact ih later other member

/-- What a value adds to a row. -/
def partOf (v : AbiValue) : Part := if isDynamic v then .behind (encode v) else .inPlace (encode v)

theorem parts_eq_map (values : List AbiValue) : parts values = values.map partOf := by
  induction values with
  | nil => rw [parts]; rfl
  | cons v rest ih => rw [parts, ih]; rfl

theorem anyDynamicValue_eq (values : List AbiValue) :
    anyDynamicValue values = values.any isDynamic := by
  induction values with
  | nil => rw [anyDynamicValue]; rfl
  | cons v rest ih => rw [anyDynamicValue, ih, List.any_cons]

theorem any_isDynamic_eq {values : List AbiValue} {types : List AbiType}
    (typed : HaveTypes values types)
    (same : ∀ t ∈ types, ∀ v, HasType v t → isDynamic v = t.isDynamic) :
    values.any isDynamic = types.any AbiType.isDynamic := by
  induction types generalizing values with
  | nil =>
    cases typed
    rfl
  | cons t rest ih =>
    cases typed with
    | cons first later =>
      rw [List.any_cons, List.any_cons, same t List.mem_cons_self _ first,
        ih later fun other member => same other (List.mem_cons_of_mem t member)]

theorem any_isDynamic_of_forall {items : List AbiValue} {b : Bool} (some : items ≠ [])
    (same : ∀ v ∈ items, isDynamic v = b) : items.any isDynamic = b := by
  obtain ⟨first, member⟩ := List.exists_mem_of_ne_nil items some
  cases b with
  | false => exact List.any_eq_false.mpr fun v member => by simp [same v member]
  | true => exact List.any_eq_true.mpr ⟨first, member, same first member⟩

/-- Whether the encoding has a fixed length is told by the type. -/
theorem isDynamic_of_hasType {t : AbiType} (sound : t.Sound) {v : AbiValue} (typed : HasType v t) :
    isDynamic v = t.isDynamic := by
  induction sound generalizing v with
  | @fixedArray item size some _ ih =>
    cases typed with
    | fixedArray typed length =>
      rw [isDynamic, AbiType.isDynamic, anyDynamicValue_eq]
      refine any_isDynamic_of_forall ?_ fun v member => ih (typed.hasType v member)
      rintro rfl
      exact some length.symm
  | tuple _ _ ih =>
    cases typed with
    | tuple typed =>
      rw [isDynamic, AbiType.isDynamic, anyDynamicValue_eq, anyDynamic_eq]
      exact any_isDynamic_eq typed fun t member v => ih t member
  | array _ _ =>
    cases typed
    rw [isDynamic]
    rfl
  | _ =>
    cases typed
    simp [isDynamic, AbiType.isDynamic]

/-! ## The room that a value takes -/

theorem length_encode_add_le (v : AbiValue) (rest : List AbiValue) :
    (encode v).length + (Part.layout (parts rest)).length
      ≤ (Part.layout (parts (v :: rest))).length := by
  rw [parts_eq_map, parts_eq_map, List.map_cons, Part.length_layout_cons, partOf]
  split
  · rw [Part.headSize, Part.tail]
    omega
  · rw [Part.headSize]
    omega

theorem length_layout_ge {items : List AbiValue} {words : Nat}
    (wide : ∀ v ∈ items, 32 * words ≤ (encode v).length) :
    32 * (items.length * words) ≤ (Part.layout (parts items)).length := by
  induction items with
  | nil => simp
  | cons v rest ih =>
    have first := wide v List.mem_cons_self
    have later := ih fun other member => wide other (List.mem_cons_of_mem v member)
    have total := length_encode_add_le v rest
    have split : 32 * ((rest.length + 1) * words) = 32 * (rest.length * words) + 32 * words := by
      rw [Nat.add_mul, Nat.one_mul, Nat.mul_add]
    rw [List.length_cons, split]
    omega

theorem length_layout_ge_wordsOfAll {values : List AbiValue} {types : List AbiType}
    (typed : HaveTypes values types)
    (wide : ∀ t ∈ types, ∀ v, HasType v t → 32 * t.words ≤ (encode v).length) :
    32 * wordsOfAll types ≤ (Part.layout (parts values)).length := by
  induction types generalizing values with
  | nil => simp [wordsOfAll]
  | cons t rest ih =>
    cases typed with
    | @cons v others _ _ first typed =>
      have head := wide t List.mem_cons_self _ first
      have later := ih typed fun other member => wide other (List.mem_cons_of_mem t member)
      have total := length_encode_add_le v others
      rw [wordsOfAll, Nat.mul_add]
      exact Nat.le_trans (Nat.add_le_add head later) total

theorem length_counted (b : Bytes) : (counted b).length = 32 + (padded b).length := by
  rw [counted, List.length_append, Bytes.length_ofNatWidth]

theorem length_encode_address (a : Address) : (encode (.address a)).length = 32 := by
  rw [encode, List.length_append, List.length_replicate, a.length_eq]

theorem length_encode_bytesN {b : Bytes} {size : Nat} (length : b.length = size)
    (some : 0 < size) (fits : size ≤ 32) : (encode (.bytesN b)).length = 32 := by
  rw [encode, length_padded (by omega) (by omega)]

theorem length_encode_function (b : FixedBytes 24) : (encode (.function b)).length = 32 := by
  have length := b.length_eq
  rw [encode, length_padded (by omega) (by omega)]

/-- A value takes as many words as its type asks for at least. -/
theorem words_le_length_encode {t : AbiType} (sound : t.Sound) {v : AbiValue}
    (typed : HasType v t) : 32 * t.words ≤ (encode v).length := by
  induction sound generalizing v with
  | address =>
    cases typed
    exact Nat.le_of_eq (length_encode_address _).symm
  | bool | uint | int =>
    cases typed
    rw [encode, Bytes.length_ofNatWidth]
    exact Nat.le_refl 32
  | bytesN some fits =>
    cases typed with
    | bytesN length => exact Nat.le_of_eq (length_encode_bytesN length some fits).symm
  | function =>
    cases typed
    exact Nat.le_of_eq (length_encode_function _).symm
  | bytes | string =>
    cases typed
    rw [encode, length_counted]
    exact Nat.le_add_right _ _
  | array =>
    cases typed
    rw [encode, List.length_append, Bytes.length_ofNatWidth]
    exact Nat.le_add_right _ _
  | fixedArray _ _ ih =>
    cases typed with
    | fixedArray typed length =>
      rw [encode, AbiType.words, ← length]
      exact length_layout_ge fun v member => ih (typed.hasType v member)
  | tuple _ _ ih =>
    cases typed with
    | tuple typed =>
      rw [encode, AbiType.words]
      exact length_layout_ge_wordsOfAll typed fun t member v => ih t member

/-! ## Reading single values -/

section Reading

variable {c : Cursor} {more : Bytes}

theorem oneWord_of_append {value : Bytes → AbiValue} {word : Bytes} (length : word.length = 32)
    (rest : c.rest = word ++ more) :
    oneWord value c = some (value word, { c with rest := more }) := by
  rw [oneWord, Cursor.word?_of_append length rest]
  rfl

/-- The count in front of what is read can be read. -/
theorem word?_of_count {base behind : Bytes} {n depth : Nat} :
    (⟨base, Bytes.ofNatWidth 32 n ++ behind, depth⟩ : Cursor).word?
      = some (Bytes.ofNatWidth 32 n, ⟨base, behind, depth⟩) :=
  Cursor.word?_of_append (Bytes.length_ofNatWidth 32 n) rfl

theorem countedBytes_of_stands {value : Bytes → AbiValue} {content : Bytes} (fits : c.Fits)
    (deep : c.depth < Cursor.depthLimit)
    (stands : c.StandsBefore more (.behind (counted content))) :
    countedBytes value c = some (value content, { c with rest := more }) := by
  obtain ⟨behind, leads, small⟩ := stands.follow? fits deep
  have count : content.length < Word.size := by
    have room := length_le_padded content
    rw [List.length_append, length_counted] at small
    exact Word.lt_size_of_lt (by omega)
  have cut : Rlp.cut? content.length (padded content ++ behind) = some (content,
      List.replicate ((32 - content.length % 32) % 32) 0 ++ behind) := by
    rw [padded, List.append_assoc, Rlp.cut?_append]
  rw [countedBytes, leads, counted, List.append_assoc]
  simp only [Option.bind_eq_bind, Option.bind_some, word?_of_count,
    Bytes.toNat_ofNatWidth_of_lt count, cut]
  rfl

/-! ## Reading groups -/

theorem flatMap_tail_of_inPlace {values : List AbiValue}
    (inPlace : values.any isDynamic = false) : (parts values).flatMap Part.tail = [] := by
  rw [parts_eq_map, List.flatMap_map]
  refine List.flatMap_eq_nil_iff.mpr fun v member => ?_
  have fixed : isDynamic v = false := by
    simpa using List.any_eq_false.mp inPlace v member
  rw [partOf, fixed]
  rfl

/-- What the members of a group are read by reads their row, one reading deeper. -/
def ReadsRow (values : List AbiValue) (depth : Nat)
    (members : Cursor → Option (List AbiValue × Cursor)) : Prop :=
  ∀ (c : Cursor) more, c.Fits → c.depth = depth → c.StandsBeforeRow more (parts values) →
    members c = some (values, { c with rest := more })

theorem group_of_stands {values : List AbiValue} {value : List AbiValue → AbiValue}
    {members : Cursor → Option (List AbiValue × Cursor)}
    (reads : ReadsRow values (c.depth + 1) members) (fits : c.Fits)
    (deep : c.depth < Cursor.depthLimit)
    (stands : c.StandsBefore more (if values.any isDynamic then
      .behind (Part.layout (parts values)) else .inPlace (Part.layout (parts values)))) :
    group (values.any isDynamic) value members c
      = some (value values, { c with rest := more }) := by
  cases dynamic : values.any isDynamic with
  | true =>
    rw [dynamic, if_pos rfl] at stands
    obtain ⟨behind, leads, small⟩ := stands.follow? fits deep
    have read := reads _ _ ⟨small, small⟩ rfl
      (Part.standsBeforeRow_layout (parts values) behind (c.depth + 1))
    rw [group, if_pos rfl, leads]
    simp only [Option.bind_eq_bind, Option.bind_some, read]
    rfl
  | false =>
    rw [dynamic, if_neg (by decide)] at stands
    have rest : c.rest = Part.layout (parts values) ++ more := stands
    have small : (Part.layout (parts values) ++ more).length < UInt64.size := rest ▸ fits.rest
    have read := reads _ _ ⟨small, small⟩ rfl
      (Part.standsBeforeRow_layout (parts values) more (c.depth + 1))
    rw [flatMap_tail_of_inPlace dynamic, List.nil_append] at read
    rw [group, if_neg (by decide), Cursor.nested?_of_lt deep, rest]
    simp only [Option.bind_eq_bind, Option.bind_some, read]
    rfl

/-- The items of an array are counted, and read two readings deeper. -/
theorem countedArray_of_stands {items : List AbiValue} {step : Step} {words : Nat}
    (reads : ReadsRow items (c.depth + 2) (repeatedly step items.length []))
    (positive : 0 < words)
    (wide : 32 * (items.length * words) ≤ (Part.layout (parts items)).length) (fits : c.Fits)
    (deep : c.depth + 2 ≤ Cursor.depthLimit)
    (stands : c.StandsBefore more
      (.behind (Bytes.ofNatWidth 32 items.length ++ Part.layout (parts items)))) :
    countedArray words step c = some (.array items, { c with rest := more }) := by
  obtain ⟨behind, leads, small⟩ := stands.follow? fits (by omega)
  have few : items.length ≤ items.length * words := Nat.le_mul_of_pos_right _ positive
  rw [List.append_assoc, List.length_append, Bytes.length_ofNatWidth] at small
  have room : (Part.layout (parts items) ++ behind).length < UInt64.size := by omega
  have enough : items.length * words ≤ (Part.layout (parts items) ++ behind).length / 32 := by
    rw [List.length_append]
    omega
  have count : items.length < UInt64.size := by omega
  rw [countedArray, leads, List.append_assoc]
  simp only [Option.bind_eq_bind, Option.bind_some, word?_of_count,
    Bytes.toNat_ofNatWidth_of_lt (Word.lt_size_of_lt count)]
  rw [if_neg (by omega)]
  by_cases empty : items = []
  · rw [empty, if_pos (.inl rfl)]
    rfl
  · have listed : ¬(items.length = 0 ∨ words = 0) := by
      rw [List.length_eq_zero_iff]
      rintro (none | wordless)
      · exact empty none
      · omega
    have read := reads _ _ ⟨room, room⟩ rfl
      (Part.standsBeforeRow_layout (parts items) behind (c.depth + 2))
    rw [if_neg listed, Cursor.nested?_of_lt (by change c.depth + 1 < _; omega)]
    simp only [Option.bind_some, Cursor.hasWords, decide_eq_true enough, read]
    rfl

end Reading

/-! ## Reading all values -/

/-- The reader of a type gives a value back wherever it stands. -/
def ReadsBack (t : AbiType) (v : AbiValue) : Prop :=
  ∀ (c : Cursor) more, c.Fits → c.depth + t.levels ≤ Cursor.depthLimit →
    c.StandsBefore more (partOf v) → read t c = some (v, { c with rest := more })

theorem stands_cons {c : Cursor} {more : Bytes} {v : AbiValue} {rest : List AbiValue}
    (fits : c.Fits) (stands : c.StandsBeforeRow more (parts (v :: rest))) :
    ∃ between, c.StandsBefore between (partOf v) ∧ ({ c with rest := between } : Cursor).Fits ∧
      ({ c with rest := between } : Cursor).StandsBeforeRow more (parts rest) := by
  rw [parts_eq_map, List.map_cons, ← parts_eq_map] at stands
  obtain ⟨between, first, later⟩ := stands.first
  exact ⟨between, first, first.fits fits, later⟩

theorem repeatedly_of_readsBack {t : AbiType} {items before : List AbiValue} {c : Cursor}
    {more : Bytes} (back : ∀ v ∈ items, ReadsBack t v)
    (shallow : c.depth + t.levels ≤ Cursor.depthLimit) (fits : c.Fits)
    (stands : c.StandsBeforeRow more (parts items)) :
    repeatedly (read t) items.length before c
      = some (before.reverse ++ items, { c with rest := more }) := by
  induction items generalizing before c with
  | nil =>
    rw [List.append_nil, ← stands.rest_of_nil]
    rfl
  | cons v rest ih =>
    obtain ⟨between, first, kept, later⟩ := stands_cons fits stands
    have remaining (other : AbiValue) (member : other ∈ rest) : ReadsBack t other :=
      back other (List.mem_cons_of_mem v member)
    have read : repeatedly (read t) rest.length (v :: before) { c with rest := between }
        = some ((v :: before).reverse ++ rest, { c with rest := more }) :=
      ih (c := { c with rest := between }) remaining shallow kept later
    rw [List.length_cons, repeatedly, back v List.mem_cons_self c between fits shallow first]
    rw [List.reverse_cons, List.append_assoc] at read
    exact read

theorem readAll_of_readsBack {types : List AbiType} {values : List AbiValue} {c : Cursor}
    {more : Bytes} (typed : HaveTypes values types)
    (back : ∀ t ∈ types, ∀ v, HasType v t → ReadsBack t v)
    (shallow : c.depth + levelsOfAll types ≤ Cursor.depthLimit) (fits : c.Fits)
    (stands : c.StandsBeforeRow more (parts values)) :
    readAll types c = some (values, { c with rest := more }) := by
  induction types generalizing values c with
  | nil =>
    cases typed
    rw [← stands.rest_of_nil]
    rfl
  | cons t rest ih =>
    cases typed with
    | @cons v others _ _ first typed =>
      obtain ⟨between, head, kept, later⟩ := stands_cons fits stands
      rw [levelsOfAll] at shallow
      have remaining (other : AbiType) (member : other ∈ rest) (w : AbiValue)
          (typed : HasType w other) : ReadsBack other w :=
        back other (List.mem_cons_of_mem t member) w typed
      have read : readAll rest { c with rest := between }
          = some (others, { c with rest := more }) :=
        ih (c := { c with rest := between }) typed remaining (by dsimp only; omega) kept later
      rw [readAll, back t List.mem_cons_self v first c between fits (by omega) head]
      simp only [Option.bind_eq_bind, Option.bind_some, read]
      rfl

theorem readsRow_repeatedly {t : AbiType} {items : List AbiValue} {depth : Nat}
    (back : ∀ v ∈ items, ReadsBack t v) (shallow : depth + t.levels ≤ Cursor.depthLimit) :
    ReadsRow items depth (repeatedly (read t) items.length []) := by
  rintro c more fits rfl stands
  exact repeatedly_of_readsBack back shallow fits stands

theorem readsRow_readAll {types : List AbiType} {values : List AbiValue} {depth : Nat}
    (typed : HaveTypes values types) (back : ∀ t ∈ types, ∀ v, HasType v t → ReadsBack t v)
    (shallow : depth + levelsOfAll types ≤ Cursor.depthLimit) :
    ReadsRow values depth (readAll types) := by
  rintro c more fits rfl stands
  exact readAll_of_readsBack typed back shallow fits stands

theorem readsBack_of_word {t : AbiType} {v : AbiValue} {value : Bytes → AbiValue}
    (reads : read t = oneWord value) (inPlace : isDynamic v = false)
    (length : (encode v).length = 32) (same : value (encode v) = v) : ReadsBack t v := by
  intro c more fits shallow stands
  rw [partOf, inPlace] at stands
  rw [reads, oneWord_of_append length stands, same]

/-- Every value of a sound type is read back. -/
theorem readsBack_of_hasType {t : AbiType} (sound : t.Sound) {v : AbiValue}
    (typed : HasType v t) : ReadsBack t v := by
  induction sound generalizing v with
  | address =>
    cases typed with
    | @address a =>
      refine readsBack_of_word rfl rfl (length_encode_address a) ?_
      exact congrArg AbiValue.address (addressOf_encode a)
  | bool =>
    cases typed with
    | @bool b =>
      refine readsBack_of_word rfl rfl (Bytes.length_ofNatWidth 32 _) ?_
      cases b with
      | false => rfl
      | true => rfl
  | uint _ =>
    cases typed with
    | uint n =>
      refine readsBack_of_word rfl rfl (Bytes.length_ofNatWidth 32 _) ?_
      exact congrArg AbiValue.uint (wordOf_ofNatWidth _)
  | int _ =>
    cases typed with
    | int n =>
      refine readsBack_of_word rfl rfl (Bytes.length_ofNatWidth 32 _) ?_
      exact congrArg AbiValue.int (wordOf_ofNatWidth _)
  | bytesN some fits =>
    cases typed with
    | bytesN length =>
      refine readsBack_of_word rfl rfl (length_encode_bytesN length some fits) ?_
      exact congrArg AbiValue.bytesN (take_padded length)
  | function =>
    cases typed with
    | @function b =>
      refine readsBack_of_word rfl rfl (length_encode_function b) ?_
      exact congrArg AbiValue.function (functionOf_padded b)
  | bytes =>
    cases typed with
    | bytes =>
      intro c more fits shallow stands
      exact countedBytes_of_stands fits shallow stands
  | string =>
    cases typed with
    | @string s =>
      intro c more fits shallow stands
      have read : countedBytes (fun content => .string (Utf8.decode content)) c
          = some (.string (Utf8.decode (Hex.octets s)), { c with rest := more }) :=
        countedBytes_of_stands fits shallow stands
      rw [Utf8.decode_octets] at read
      exact read
  | @array item sound ih =>
    cases typed with
    | @array items _ typed =>
      intro c more fits shallow stands
      rw [AbiType.levels] at shallow
      have wide := length_layout_ge fun v member =>
        words_le_length_encode sound (typed.hasType v member)
      refine countedArray_of_stands (readsRow_repeatedly ?_ (by omega)) sound.words_pos wide fits
        (by omega) stands
      exact fun v member => ih (typed.hasType v member)
  | @fixedArray item size some sound ih =>
    cases typed with
    | @fixedArray items _ _ typed length =>
      intro c more fits shallow stands
      have dynamic : items.any isDynamic = item.isDynamic := by
        have same := isDynamic_of_hasType (.fixedArray some sound) (.fixedArray typed length)
        rw [isDynamic, anyDynamicValue_eq] at same
        exact same
      rw [AbiType.levels] at shallow
      rw [partOf, isDynamic, anyDynamicValue_eq, encode] at stands
      rw [read, ← dynamic, ← length]
      refine group_of_stands (readsRow_repeatedly ?_ (by omega)) fits (by omega) stands
      exact fun v member => ih (typed.hasType v member)
  | @tuple types some sound ih =>
    cases typed with
    | @tuple values _ typed =>
      intro c more fits shallow stands
      have dynamic : values.any isDynamic = anyDynamic types := by
        have same := isDynamic_of_hasType (.tuple some sound) (.tuple typed)
        rw [isDynamic, anyDynamicValue_eq] at same
        exact same
      rw [AbiType.levels] at shallow
      rw [partOf, isDynamic, anyDynamicValue_eq, encode] at stands
      rw [read, ← dynamic]
      refine group_of_stands (readsRow_readAll typed ?_ (by omega)) fits (by omega) stands
      exact fun t member v => ih t member

/-! ## Reading arguments -/

/-- The arguments of a call are read back, and bytes behind them make no difference. -/
theorem decodeArguments?_append {types : List AbiType} {values : List AbiValue}
    (sound : ∀ t ∈ types, t.Sound) (typed : HaveTypes values types)
    (shallow : levelsOfAll types ≤ Cursor.depthLimit) {more : Bytes}
    (small : (encodeArguments values ++ more).length < UInt64.size) :
    decodeArguments? types (encodeArguments values ++ more) = some values := by
  rw [decodeArguments?]
  by_cases void : allVoid types = true
  · -- A sound type is not void, so there are no types here.
    cases types with
    | nil =>
      cases typed
      rfl
    | cons t rest =>
      have solid := (sound t List.mem_cons_self).isVoid_eq_false
      rw [allVoid, solid] at void
      cases void
  · have enough : wordsOfAll types ≤ (encodeArguments values ++ more).length / 32 := by
      have room := length_layout_ge_wordsOfAll typed fun t member v =>
        words_le_length_encode (sound t member)
      rw [List.length_append, encodeArguments]
      omega
    have reads : ReadsRow values 0 (readAll types) :=
      readsRow_readAll typed (fun t member v => readsBack_of_hasType (sound t member)) (by omega)
    have read := reads _ _ ⟨small, small⟩ rfl (Part.standsBeforeRow_layout (parts values) more 0)
    have wide : (Cursor.ofBytes (encodeArguments values ++ more)).hasWords (wordsOfAll types)
        = true := decide_eq_true enough
    rw [if_neg void]
    dsimp only
    rw [if_pos wide]
    exact congrArg (Option.map Prod.fst) read

end TxCourier.Abi
