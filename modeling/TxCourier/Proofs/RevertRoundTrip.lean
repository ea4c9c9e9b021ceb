import TxCourier.Proofs.AbiRoundTrip
import TxCourier.Revert

/-! # What a revert payload says

The payload of an error is its selector with its arguments behind it. It is reported as that error
unless a declaration that is tried earlier has the same selector. What is reported of a declaration
that is passed over, or of a payload that nobody encoded, is not held here. -/
namespace TxCourier

namespace Abi

/-! ## How values are shown -/

mutual

/-- A text is what a value of a type is shown by: numbers in decimal, those with a sign by what
their width means, bytes in hexadecimal and texts as they are. -/
inductive Shows : AbiType → AbiValue → String → Prop
  | address (a : Address) : Shows .address (.address a) a.checksummed
  | yes : Shows .bool (.bool true) "true"
  | no : Shows .bool (.bool false) "false"
  | uint {bits : Nat} (n : BitVec bits) :
      Shows (.uint bits) (.uint (n.setWidth 256)) n.toNat.repr
  | int {bits : Nat} (n : BitVec bits) :
      Shows (.int bits) (.int (n.signExtend 256)) n.toInt.repr
  | bytesN {b : Bytes} {size : Nat} (length : b.length = size) :
      Shows (.bytesN size) (.bytesN b) ("0x" ++ Hex.encode b)
  | function (b : FixedBytes 24) :
      Shows .function (.function b) ("Function(" ++ ("0x" ++ Hex.encode b.toList) ++ ")")
  | bytes (b : Bytes) : Shows .bytes (.bytes b) ("0x" ++ Hex.encode b)
  | string (s : String) : Shows .string (.string s) s
  | array {item : AbiType} {items : List AbiValue} {texts : List String}
      (shows : ShowsAll (List.replicate items.length item) items texts) :
      Shows (.array item) (.array items) ("[" ++ ", ".intercalate texts ++ "]")
  | fixedArray {item : AbiType} {items : List AbiValue} {texts : List String} {size : Nat}
      (length : items.length = size) (shows : ShowsAll (List.replicate size item) items texts) :
      Shows (.fixedArray item size) (.fixedArray items) ("[" ++ ", ".intercalate texts ++ "]")
  | tuple {types : List AbiType} {members : List AbiValue} {texts : List String}
      (shows : ShowsAll types members texts) :
      Shows (.tuple types) (.tuple members) ("(" ++ ", ".intercalate texts ++ ")")

/-- The same for values of some types, one after the other. -/
inductive ShowsAll : List AbiType → List AbiValue → List String → Prop
  | nil : ShowsAll [] [] []
  | cons {t : AbiType} {v : AbiValue} {text : String} {types : List AbiType}
      {values : List AbiValue} {texts : List String} (first : Shows t v text)
      (rest : ShowsAll types values texts) : ShowsAll (t :: types) (v :: values) (text :: texts)

end

theorem allShown_eq (values : List AbiValue) :
    AbiValue.allShown values = values.map AbiValue.shown := by
  induction values with
  | nil => rfl
  | cons v rest ih => rw [AbiValue.allShown, ih, List.map_cons]

theorem showsAll_replicate {t : AbiType} {items : List AbiValue}
    (shows : ∀ v ∈ items, Shows t v v.shown) :
    ShowsAll (List.replicate items.length t) items (items.map AbiValue.shown) := by
  induction items with
  | nil => exact .nil
  | cons v rest ih =>
    exact .cons (shows v List.mem_cons_self)
      (ih fun other member => shows other (List.mem_cons_of_mem v member))

theorem showsAll_of_haveTypes {types : List AbiType} {values : List AbiValue}
    (typed : HaveTypes values types)
    (shows : ∀ t ∈ types, ∀ v, HasType v t → Shows t v v.shown) :
    ShowsAll types values (values.map AbiValue.shown) := by
  induction types generalizing values with
  | nil =>
    cases typed
    exact .nil
  | cons t rest ih =>
    cases typed with
    | cons first typed =>
      exact .cons (shows t List.mem_cons_self _ first)
        (ih typed fun other member => shows other (List.mem_cons_of_mem t member))

theorem decimal_setWidth {bits : Nat} (fits : bits ≤ 256) (n : BitVec bits) :
    Word.decimal (n.setWidth 256) = n.toNat.repr := by
  have small : n.toNat < 2 ^ 256 :=
    Nat.lt_of_lt_of_le n.isLt (Nat.pow_le_pow_right (by decide) fits)
  rw [Word.decimal, BitVec.toNat_setWidth, Nat.mod_eq_of_lt small]

/-- Every value of a sound type is shown by its text. -/
theorem shows_shown {t : AbiType} (sound : t.Sound) {v : AbiValue} (typed : HasType v t) :
    Shows t v v.shown := by
  induction sound generalizing v with
  | address =>
    cases typed
    exact .address _
  | bool =>
    cases typed with
    | @bool b =>
      cases b with
      | false => exact .no
      | true => exact .yes
  | uint fits =>
    cases typed with
    | uint n =>
      rw [AbiValue.shown, decimal_setWidth fits]
      exact .uint n
  | int fits =>
    cases typed with
    | int n =>
      rw [AbiValue.shown, BitVec.toInt_signExtend_of_le fits]
      exact .int n
  | bytesN _ _ =>
    cases typed with
    | bytesN length => exact .bytesN length
  | function =>
    cases typed
    exact .function _
  | bytes =>
    cases typed
    exact .bytes _
  | string =>
    cases typed
    exact .string _
  | array _ ih =>
    cases typed with
    | array typed =>
      rw [AbiValue.shown, allShown_eq]
      exact .array (showsAll_replicate fun v member => ih (typed.hasType v member))
  | fixedArray _ _ ih =>
    cases typed with
    | fixedArray typed length =>
      rw [AbiValue.shown, allShown_eq]
      refine .fixedArray length ?_
      rw [← length]
      exact showsAll_replicate fun v member => ih (typed.hasType v member)
  | tuple _ _ ih =>
    cases typed with
    | tuple typed =>
      rw [AbiValue.shown, allShown_eq]
      exact .tuple (showsAll_of_haveTypes typed fun t member v => ih t member)

end Abi

open Abi

namespace Revert

/-- The payload by which a contract refuses a call with an error. -/
def payload (e : ErrorDeclaration) (values : List AbiValue) : Bytes :=
  e.selector ++ encodeArguments values

theorem length_selector (e : ErrorDeclaration) : e.selector.length = 4 := by
  rw [ErrorDeclaration.selector, List.length_take, (keccak256 _).length_eq]
  rfl

theorem match?_of_ne {selector body : Bytes} {e : ErrorDeclaration}
    (other : e.selector ≠ selector) : match? selector body e = none := if_neg other

/-- The first declaration with the selector that can read the arguments is reported. -/
theorem parse?_of_match {interfaces : List Interface} {e : ErrorDeclaration}
    {before after : List ErrorDeclaration} {values : List AbiValue} {selector body : Bytes}
    (length : selector.length = 4) (tried : candidates interfaces = before ++ e :: after)
    (first : ∀ d ∈ before, d.selector ≠ selector) (named : e.selector = selector)
    (reads : e.decode? body = some values) :
    parse? (selector ++ body) interfaces = some (.of e values) := by
  have long : ¬(selector ++ body).length < 4 := by
    rw [List.length_append]
    omega
  have passed : before.findSome? (match? selector body) = none :=
    List.findSome?_eq_none_iff.mpr fun d member => match?_of_ne (first d member)
  have found : match? selector body e = some (.of e values) := by
    rw [match?, if_pos named, reads]
    rfl
  rw [parse?, if_neg long, ← length, List.take_left, List.drop_left, tried, List.findSome?_append,
    passed, List.findSome?_cons, found]
  rfl

/-- The payload of an error with values of its declared types is reported as that error, unless a
declaration that is tried earlier has its selector. What is reported are the name, the signature and
the values as they are shown, and it is the same whatever bytes follow. Groups have to have members,
readings may not be nested deeper than is allowed, and a payload has as many bytes as 64 bits can
count. -/
theorem parse?_payload {interfaces : List Interface} {e : ErrorDeclaration}
    {before after : List ErrorDeclaration} {types : List AbiType} {values : List AbiValue}
    (tried : candidates interfaces = before ++ e :: after)
    (first : ∀ d ∈ before, d.selector ≠ e.selector)
    (declared : Parameter.resolveAll? e.inputs = some types) (filled : allFilled types = true)
    (shallow : levelsOfAll types ≤ Cursor.depthLimit) (typed : HaveTypes values types) :
    ∃ k : KnownError,
      (∀ more, (payload e values ++ more).length < UInt64.size →
        parse? (payload e values ++ more) interfaces = some k) ∧
      k.name = e.name ∧ k.signature = e.signature ∧ ShowsAll types values k.arguments ∧
      k.formatted = k.name ++ "(" ++ ", ".intercalate k.arguments ++ ")" := by
  have sound (t : AbiType) (member : t ∈ types) : t.Sound :=
    Parameter.sound_of_resolveAll? e.inputs declared t member (allFilled_iff.mp filled t member)
  have shown : ShowsAll types values (KnownError.of e values).arguments :=
    showsAll_of_haveTypes typed fun t member v => shows_shown (sound t member)
  refine ⟨.of e values, fun more small => ?_, rfl, rfl, shown, rfl⟩
  rw [payload, List.append_assoc] at small ⊢
  have room : (encodeArguments values ++ more).length < UInt64.size := by
    rw [List.length_append] at small
    omega
  refine parse?_of_match (length_selector e) tried first rfl ?_
  rw [ErrorDeclaration.decode?, declared]
  exact decodeArguments?_append sound typed shallow room

/-! ## A declaration behind the errors of the language -/

theorem selector_reasonError : reasonError.selector = [0x08, 0xc3, 0x79, 0xa0] := by
  decide +kernel

theorem selector_panicError : panicError.selector = [0x4e, 0x48, 0x7b, 0x71] := by
  decide +kernel

def boundsError : ErrorDeclaration where
  name := "OutOfBounds"
  inputs := [⟨"bounds", "tuple[]", [⟨"low", "int16", []⟩, ⟨"unit", "bytes4", []⟩]⟩,
    ⟨"why", "string", []⟩]

def boundsValues : List AbiValue :=
  [.array [.tuple [.int ((-5 : BitVec 16).signExtend 256), .bytesN [1, 2, 3, 4]]], .string "low"]

theorem haveTypes_boundsValues :
    HaveTypes boundsValues [.array (.tuple [.int 16, .bytesN 4]), .string] :=
  .cons (.array (.cons (.tuple (.cons (.int _) (.cons (.bytesN rfl) .nil))) .nil))
    (.cons .string .nil)

theorem selector_boundsError : boundsError.selector = [0x86, 0x83, 0x7e, 0x1b] := by
  decide +kernel

theorem parse?_payload_boundsError :
    ∃ k : KnownError,
      parse? (payload boundsError boundsValues ++ [0xff]) [⟨[boundsError]⟩] = some k ∧
        k.name = "OutOfBounds" := by
  have tried : candidates [⟨[boundsError]⟩]
      = [reasonError, panicError] ++ boundsError :: [] := rfl
  have first : ∀ d ∈ [reasonError, panicError], d.selector ≠ boundsError.selector := by
    simp [selector_reasonError, selector_panicError, selector_boundsError]
  have small : (payload boundsError boundsValues ++ [0xff]).length < UInt64.size := by
    rw [payload, List.length_append, List.length_append, length_selector]
    decide +kernel
  obtain ⟨k, reported, name, -⟩ :=
    parse?_payload tried first rfl rfl (by decide) haveTypes_boundsValues
  exact ⟨k, reported [0xff] small, name⟩

end Revert

end TxCourier
