import TxCourier.Bytes.Basic
import TxCourier.Word

/-! # Recursive length prefix

An item is a byte string or a list, and its encoding is a header that gives the kind and the
length, then the payload. A list keeps its payload in encoded form: a reader of some type splits
it when it comes to it. Reading is strict, which means that it takes the shortest headers only, so
each item has one encoding. -/
namespace TxCourier.Rlp

inductive Item where
  | bytes (payload : Bytes)
  | list (payload : Bytes)
deriving DecidableEq

/-- The header of a payload of `n` bytes; `base` tells strings from lists. -/
def header (base : UInt8) (n : Nat) : Bytes :=
  if n < 56 then [base + n.toUInt8]
  else
    let length := Bytes.ofNat n
    (base + 55 + length.length.toUInt8) :: length

def Item.encode : Item → Bytes
  | .bytes [x] => if x < 0x80 then [x] else [0x81, x]
  | .bytes payload => header 0x80 payload.length ++ payload
  | .list payload => header 0xc0 payload.length ++ payload

def encodeAll (items : List Item) : Bytes := items.flatMap Item.encode

/-- The list of some items. -/
def Item.ofList (items : List Item) : Item := .list (encodeAll items)

/-- A number is the string of its digits in base 256, without leading zeros. -/
def Item.ofNat (n : Nat) : Item := .bytes (Bytes.ofNat n)

def Item.ofFixed {n : Nat} (b : FixedBytes n) : Item := .bytes b.toList

def Item.ofWord (w : Word) : Item := .ofNat w.toNat

def Item.ofUInt64 (n : UInt64) : Item := .ofNat n.toNat

/-- An address, or the empty string where there is none. -/
def Item.ofRecipient : Option Address → Item
  | some a => .ofFixed a
  | none => .bytes []

/-- The first `n` bytes and the rest, if there are so many. -/
def cut? (n : Nat) (b : Bytes) : Option (Bytes × Bytes) :=
  let parts := b.splitAt n
  if parts.1.length = n then some parts else none

/-- The length that a long header gives: no leading zero, and 56 at least. -/
def longLength? (width : Nat) (b : Bytes) : Option (Nat × Bytes) :=
  match cut? width b with
  | none => none
  | some (digits, rest) =>
    if digits.head? = some 0 ∨ Bytes.toNat digits < 56 then none
    else some (Bytes.toNat digits, rest)

/-- What the first byte, and the length behind it, say about an item. -/
inductive Header where
  | single (x : UInt8)
  | string (length : Nat)
  | list (length : Nat)

def Header.read? : Bytes → Option (Header × Bytes)
  | [] => none
  | x :: rest =>
    let t := x.toNat
    if t < 0x80 then some (.single x, rest)
    else if t < 0xb8 then some (.string (t - 0x80), rest)
    else if t < 0xc0 then (longLength? (t - 0xb7) rest).map fun (n, rest) => (.string n, rest)
    else if t < 0xf8 then some (.list (t - 0xc0), rest)
    else (longLength? (t - 0xf7) rest).map fun (n, rest) => (.list n, rest)

/-- A byte below 128 is written without a header, and so it is not read behind one. -/
def isBare : Bytes → Bool
  | [x] => x < 0x80
  | _ => false

/-- The first item of a byte string, and what follows it. -/
def Item.read? (b : Bytes) : Option (Item × Bytes) :=
  match Header.read? b with
  | none => none
  | some (.single x, rest) => some (.bytes [x], rest)
  | some (.string n, rest) =>
    match cut? n rest with
    | none => none
    | some (payload, rest) => if isBare payload then none else some (.bytes payload, rest)
  | some (.list n, rest) => (cut? n rest).map fun (payload, rest) => (.list payload, rest)

theorem length_of_cut? {n : Nat} {b payload rest : Bytes} (h : cut? n b = some (payload, rest)) :
    b.length = n + rest.length := by
  simp only [cut?, List.splitAt_eq] at h
  split at h
  · rename_i size
    simp only [Option.some.injEq, Prod.mk.injEq] at h
    obtain ⟨rfl, rfl⟩ := h
    simp only [List.length_take] at size
    simp only [List.length_drop]
    omega
  · cases h

theorem length_of_longLength? {width n : Nat} {b rest : Bytes}
    (h : longLength? width b = some (n, rest)) : b.length = width + rest.length := by
  unfold longLength? at h
  split at h
  · cases h
  · rename_i found
    split at h
    · cases h
    · cases h
      exact length_of_cut? found

/-- Reading a header takes at least one byte. -/
theorem length_of_readHeader? {b rest : Bytes} {x : Header} (h : Header.read? b = some (x, rest)) :
    rest.length < b.length := by
  cases b with
  | nil => cases h
  | cons first tail =>
    simp only [Header.read?] at h
    grind [length_of_longLength?, Option.map_eq_some_iff]

/-- Reading an item takes at least its header. -/
theorem length_of_read? {b rest : Bytes} {i : Item} (h : Item.read? b = some (i, rest)) :
    rest.length < b.length := by
  unfold Item.read? at h
  split at h
  · cases h
  · rename_i found
    cases h
    exact length_of_readHeader? found
  · rename_i found
    have := length_of_readHeader? found
    split at h
    · cases h
    · rename_i parts
      have := length_of_cut? parts
      split at h
      · cases h
      · cases h; omega
  · rename_i found
    have := length_of_readHeader? found
    simp only [Option.map_eq_some_iff] at h
    obtain ⟨⟨payload, tail⟩, parts, same⟩ := h
    have := length_of_cut? parts
    cases same
    dsimp only
    omega

/-- The items of a byte string that is nothing but items. -/
def readAllFrom (b : Bytes) (read : List Item) : Option (List Item) :=
  match b with
  | [] => some read.reverse
  | x :: tail =>
    match _found : Item.read? (x :: tail) with
    | none => none
    | some (i, rest) => readAllFrom rest (i :: read)
termination_by b.length
decreasing_by exact length_of_read? _found

def readAll? (b : Bytes) : Option (List Item) := readAllFrom b []

namespace Item

def bytes? : Item → Option Bytes
  | .bytes b => some b
  | .list _ => none

/-- The items of a list. -/
def items? : Item → Option (List Item)
  | .bytes _ => none
  | .list payload => readAll? payload

def fixed? (n : Nat) : Item → Option (FixedBytes n)
  | .bytes b => FixedBytes.ofList? b
  | .list _ => none

/-- The number of at most `width` bytes that an item without leading zeros gives. -/
def nat? (width : Nat) : Item → Option Nat
  | .bytes b => if b.head? = some 0 ∨ width < b.length then none else some (Bytes.toNat b)
  | .list _ => none

def word? (i : Item) : Option Word := (i.nat? 32).map (BitVec.ofNat 256)

def fee? (i : Item) : Option Fee := (i.nat? 16).map (BitVec.ofNat 128)

def uint64? (i : Item) : Option UInt64 := (i.nat? 8).map UInt64.ofNat

def uint8? (i : Item) : Option UInt8 := (i.nat? 1).map UInt8.ofNat

/-- Zero or one. -/
def bool? (i : Item) : Option Bool :=
  match i.nat? 1 with
  | some 0 => some false
  | some 1 => some true
  | _ => none

/-- An address, or none for the empty string. -/
def recipient? : Item → Option (Option Address)
  | .bytes [] => some none
  | i => (i.fixed? 20).map some

/-- A list whose members are all read the same way. -/
def listOf? {α : Type} (member? : Item → Option α) (i : Item) : Option (List α) := do
  let items ← i.items?
  items.mapM member?

end Item

end TxCourier.Rlp
