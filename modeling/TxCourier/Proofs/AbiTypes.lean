import TxCourier.Abi.Interface

/-! # Types that are declared

A type that is read from text has widths that exist and arrays with items. The one thing that may
be amiss is a group without members, of which a value takes no room. That two texts of one type are
read alike is not held here. -/
namespace TxCourier.Abi

/-! ## Sound types -/

/-- Widths fit a word, arrays of fixed size have items and groups have members. -/
inductive AbiType.Sound : AbiType → Prop
  | address : Sound .address
  | bool : Sound .bool
  | uint {bits : Nat} (fits : bits ≤ 256) : Sound (.uint bits)
  | int {bits : Nat} (fits : bits ≤ 256) : Sound (.int bits)
  | bytesN {size : Nat} (some : 0 < size) (fits : size ≤ 32) : Sound (.bytesN size)
  | function : Sound .function
  | bytes : Sound .bytes
  | string : Sound .string
  | array {item : AbiType} (sound : Sound item) : Sound (.array item)
  | fixedArray {item : AbiType} {size : Nat} (some : size ≠ 0) (sound : Sound item) :
      Sound (.fixedArray item size)
  | tuple {members : List AbiType} (some : members ≠ [])
      (sound : ∀ t ∈ members, Sound t) : Sound (.tuple members)

mutual

/-- Whether every group in the type has members. -/
def AbiType.isFilled : AbiType → Bool
  | .array item => item.isFilled
  | .fixedArray item _ => item.isFilled
  | .tuple members => !members.isEmpty && allFilled members
  | _ => true

def allFilled : List AbiType → Bool
  | [] => true
  | t :: rest => t.isFilled && allFilled rest

end

mutual

/-- How deep readings are nested in one another at most where a value is read. -/
def AbiType.levels : AbiType → Nat
  | .bytes | .string => 1
  | .array item => item.levels + 2
  | .fixedArray item _ => item.levels + 1
  | .tuple members => levelsOfAll members + 1
  | _ => 0

def levelsOfAll : List AbiType → Nat
  | [] => 0
  | t :: rest => max t.levels (levelsOfAll rest)

end

theorem allFilled_iff {types : List AbiType} :
    allFilled types = true ↔ ∀ t ∈ types, t.isFilled = true := by
  induction types with
  | nil => simp [allFilled]
  | cons t rest ih => simp [allFilled, ih]

theorem anyDynamic_eq (types : List AbiType) : anyDynamic types = types.any AbiType.isDynamic := by
  induction types with
  | nil => rfl
  | cons t rest ih => rw [anyDynamic, ih, List.any_cons]

theorem allVoid_eq (types : List AbiType) : allVoid types = types.all AbiType.isVoid := by
  induction types with
  | nil => rfl
  | cons t rest ih => rw [allVoid, ih, List.all_cons]

namespace AbiType

theorem words_le_of_mem {types : List AbiType} {t : AbiType} (member : t ∈ types) :
    t.words ≤ wordsOfAll types := by
  induction member with
  | head rest =>
    rw [wordsOfAll]
    omega
  | tail other _ ih =>
    rw [wordsOfAll]
    omega

/-- A value of a sound type takes at least one word. -/
theorem Sound.words_pos {t : AbiType} (sound : t.Sound) : 0 < t.words := by
  induction sound with
  | fixedArray some _ ih =>
    rw [words]
    exact Nat.mul_pos (Nat.pos_of_ne_zero some) ih
  | tuple some _ ih =>
    obtain ⟨t, member⟩ := List.exists_mem_of_ne_nil _ some
    rw [words]
    exact Nat.lt_of_lt_of_le (ih t member) (words_le_of_mem member)
  | _ => exact Nat.one_pos

theorem Sound.isVoid_eq_false {t : AbiType} (sound : t.Sound) : t.isVoid = false := by
  induction sound with
  | array _ ih => rw [isVoid, ih]
  | fixedArray some _ ih => simp [isVoid, some, ih]
  | tuple some _ ih =>
    obtain ⟨t, member⟩ := List.exists_mem_of_ne_nil _ some
    rw [isVoid, allVoid_eq, List.all_eq_false]
    exact ⟨t, member, by simp [ih t member]⟩
  | _ => rfl

/-! ## Types from their texts -/

/-- What brackets may hold. -/
def AreLengths (sizes : List (Option Nat)) : Prop := ∀ n, some n ∈ sizes → n ≠ 0

theorem isFilled_foldl_inBrackets (sizes : List (Option Nat)) (t : AbiType) :
    (sizes.foldl inBrackets t).isFilled = t.isFilled := by
  induction sizes generalizing t with
  | nil => rfl
  | cons size rest ih =>
    rw [List.foldl_cons, ih]
    cases size with
    | none => rfl
    | some n => rfl

theorem Sound.foldl_inBrackets {sizes : List (Option Nat)} (lengths : AreLengths sizes)
    {t : AbiType} (sound : t.Sound) : (sizes.foldl inBrackets t).Sound := by
  induction sizes generalizing t with
  | nil => exact sound
  | cons size rest ih =>
    have later : AreLengths rest := fun n member => lengths n (List.mem_cons_of_mem size member)
    rw [List.foldl_cons]
    cases size with
    | none => exact ih later (.array sound)
    | some n => exact ih later (.fixedArray (lengths n List.mem_cons_self) sound)

end AbiType

open AbiType

/-- The brackets of a form, and of the forms in it, hold lengths. -/
inductive TypeForm.Measured : TypeForm → Prop
  | named {name : List Char} {sizes : List (Option Nat)} (lengths : AreLengths sizes) :
      Measured (.named name sizes)
  | listed {members : List TypeForm} {sizes : List (Option Nat)}
      (measured : ∀ form ∈ members, Measured form) (lengths : AreLengths sizes) :
      Measured (.listed members sizes)

open TypeForm

theorem areLengths_of_sizes? {steps : Nat} {cs rest : List Char} {sizes : List (Option Nat)}
    (read : sizes? steps cs = some (sizes, rest)) : AreLengths sizes := by
  fun_induction sizes? steps cs generalizing sizes rest with
  | case1 | case3 | case5 => cases read
  | case2 steps _ _ _ _ _ ih =>
    obtain ⟨⟨more, _⟩, later, same⟩ := Option.map_eq_some_iff.mp read
    cases same
    intro n member
    rcases List.mem_cons.mp member with open_ | member
    · cases open_
    · exact ih later n member
  | case4 =>
    rename_i positive ih
    obtain ⟨⟨more, _⟩, later, same⟩ := Option.map_eq_some_iff.mp read
    cases same
    intro n member
    rcases List.mem_cons.mp member with fixed | member
    · cases fixed
      exact fun zero => positive (.inl zero)
    · exact ih later n member
  | case6 =>
    cases read
    intro n member
    cases member

section Readers

variable {form? : List Char → Option (TypeForm × List Char)}

theorem measured_of_others
    (measured : ∀ {cs form rest}, form? cs = some (form, rest) → form.Measured)
    (steps : Nat) (cs : List Char) : ∀ form ∈ (others form? steps cs).1, form.Measured := by
  fun_induction others form? steps cs with
  | case1 steps rest next rest' read more rest'' later ih =>
    rw [later] at ih
    intro form member
    rcases List.mem_cons.mp member with rfl | member
    · exact measured read
    · exact ih form member
  | case2 => simp
  | case3 => simp

theorem measured_of_list?
    (measured : ∀ {cs form rest}, form? cs = some (form, rest) → form.Measured)
    {cs rest : List Char} {members : List TypeForm}
    (read : list? form? cs = some (members, rest)) : ∀ form ∈ members, form.Measured := by
  unfold list? at read
  split at read
  · cases read
    simp
  · obtain ⟨⟨first, behind⟩, leads, read⟩ := Option.bind_eq_some_iff.mp read
    dsimp only at read
    generalize List.dropWhile isGap _ = closing at read
    split at read
    · cases read
      intro form member
      rcases List.mem_cons.mp member with rfl | member
      · exact measured leads
      · exact measured_of_others measured _ _ form member
    · cases read

end Readers

theorem measured_of_form? {depth : Nat} {cs rest : List Char} {form : TypeForm}
    (read : form? depth cs = some (form, rest)) : form.Measured := by
  induction depth generalizing cs form rest with
  | zero => cases read
  | succ depth ih =>
    unfold form? at read
    dsimp only at read
    split at read
    · obtain ⟨⟨members, _⟩, lists, read⟩ := Option.bind_eq_some_iff.mp read
      obtain ⟨⟨sizes, _⟩, brackets, read⟩ := Option.bind_eq_some_iff.mp read
      cases read
      exact .listed (measured_of_list? ih lists) (areLengths_of_sizes? brackets)
    · obtain ⟨⟨name, _⟩, names, read⟩ := Option.bind_eq_some_iff.mp read
      obtain ⟨⟨sizes, _⟩, brackets, read⟩ := Option.bind_eq_some_iff.mp read
      cases read
      exact .named (areLengths_of_sizes? brackets)

theorem measured_of_ofString? {text : String} {form : TypeForm}
    (read : TypeForm.ofString? text = some form) : form.Measured := by
  unfold TypeForm.ofString? at read
  split at read
  · rename_i found reads
    cases read
    exact measured_of_form? reads
  · cases read

/-! ## The types that are declared -/

theorem sound_of_typeNamed? {name : List Char} {t : AbiType} (named : typeNamed? name = some t) :
    t.Sound := by
  unfold typeNamed? at named
  dsimp only at named
  split at named
  · cases named
    exact .address
  · cases named
    exact .function
  · cases named
    exact .bool
  · cases named
    exact .string
  · cases named
    exact .bytes
  · cases named
    exact .uint (by decide)
  · cases named
    exact .int (by decide)
  · split at named
    · obtain ⟨n, -, named⟩ := Option.bind_eq_some_iff.mp named
      split at named
      · rename_i width
        cases named
        exact .bytesN width.1 width.2
      · cases named
    · obtain ⟨n, wide, rfl⟩ := Option.map_eq_some_iff.mp named
      obtain ⟨_, -, wide⟩ := Option.bind_eq_some_iff.mp wide
      split at wide
      · rename_i width
        cases wide
        exact .uint width.2.1
      · cases wide
    · obtain ⟨n, wide, rfl⟩ := Option.map_eq_some_iff.mp named
      obtain ⟨_, -, wide⟩ := Option.bind_eq_some_iff.mp wide
      split at wide
      · rename_i width
        cases wide
        exact .int width.2.1
      · cases wide
    · cases named

theorem exists_of_types? {forms : List TypeForm} {types : List AbiType}
    (read : types? forms = some types) : ∀ t ∈ types, ∃ form ∈ forms, form.type? = some t := by
  induction forms generalizing types with
  | nil =>
    cases read
    simp
  | cons form rest ih =>
    rw [types?] at read
    obtain ⟨first, reads, read⟩ := Option.bind_eq_some_iff.mp read
    obtain ⟨more, later, read⟩ := Option.bind_eq_some_iff.mp read
    cases read
    intro t member
    rcases List.mem_cons.mp member with rfl | member
    · exact ⟨form, List.mem_cons_self, reads⟩
    · obtain ⟨other, listed, reads⟩ := ih later t member
      exact ⟨other, List.mem_cons_of_mem form listed, reads⟩

theorem sound_of_isFilled_tuple {types : List AbiType}
    (sound : ∀ t ∈ types, t.isFilled = true → t.Sound)
    (filled : (AbiType.tuple types).isFilled = true) : (AbiType.tuple types).Sound := by
  rw [isFilled, Bool.and_eq_true, Bool.not_eq_true', List.isEmpty_eq_false_iff, allFilled_iff]
    at filled
  exact .tuple filled.1 fun t member => sound t member (filled.2 t member)

/-- The type of a form is sound where its groups have members. -/
theorem sound_of_type? {form : TypeForm} (measured : form.Measured) {t : AbiType}
    (read : form.type? = some t) (filled : t.isFilled = true) : t.Sound := by
  induction measured generalizing t with
  | named lengths =>
    rw [TypeForm.type?] at read
    obtain ⟨inner, named, rfl⟩ := Option.map_eq_some_iff.mp read
    exact Sound.foldl_inBrackets lengths (sound_of_typeNamed? named)
  | listed measured lengths ih =>
    rw [TypeForm.type?] at read
    obtain ⟨types, listed, rfl⟩ := Option.map_eq_some_iff.mp read
    rw [isFilled_foldl_inBrackets] at filled
    refine Sound.foldl_inBrackets lengths (sound_of_isFilled_tuple ?_ filled)
    intro t member
    obtain ⟨form, inside, reads⟩ := exists_of_types? listed t member
    exact ih form inside reads

theorem areLengths_sizes {form : TypeForm} (measured : form.Measured) : AreLengths form.sizes := by
  cases measured with
  | named lengths => exact lengths
  | listed _ lengths => exact lengths

namespace Parameter

mutual

/-- The type that a parameter is declared with is sound where its groups have members. -/
theorem sound_of_resolve? : (p : Parameter) → {t : AbiType} → p.resolve? = some t →
    t.isFilled = true → t.Sound
  | ⟨name, type, components⟩, t, resolved, filled => by
    rw [resolve?] at resolved
    obtain ⟨form, reads, resolved⟩ := Option.bind_eq_some_iff.mp resolved
    have measured := measured_of_ofString? reads
    split at resolved
    · exact sound_of_type? measured resolved filled
    · obtain ⟨members, inside, resolved⟩ := Option.bind_eq_some_iff.mp resolved
      cases resolved
      rw [isFilled_foldl_inBrackets] at filled
      exact Sound.foldl_inBrackets (areLengths_sizes measured)
        (sound_of_isFilled_tuple (sound_of_resolveAll? components inside) filled)

theorem sound_of_resolveAll? : (ps : List Parameter) → {types : List AbiType} →
    resolveAll? ps = some types → ∀ t ∈ types, t.isFilled = true → t.Sound
  | [], types, resolved => by
    cases resolved
    simp
  | p :: rest, types, resolved => by
    rw [resolveAll?] at resolved
    obtain ⟨first, resolves, resolved⟩ := Option.bind_eq_some_iff.mp resolved
    obtain ⟨more, later, resolved⟩ := Option.bind_eq_some_iff.mp resolved
    cases resolved
    intro t member filled
    rcases List.mem_cons.mp member with rfl | member
    · exact sound_of_resolve? p resolves filled
    · exact sound_of_resolveAll? rest later t member filled

end

end Parameter

end TxCourier.Abi
