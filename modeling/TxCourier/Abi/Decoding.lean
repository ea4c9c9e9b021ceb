import TxCourier.Abi.Value
import TxCourier.Rlp
import TxCourier.Text.Utf8

/-! # Reading arguments

Reading follows the distances wherever they lead and asks only that what it reads is there. So
padding may be dirty, distances need not be those of the encoding, and bytes may follow. How deep
readings may be nested in one another is limited, and before the members of a group are read there
have to be as many words as they take at least. -/
namespace TxCourier.Abi

/-- What distances are counted from, what is read next, and how deep this reading is nested. -/
structure Cursor where
  base : Bytes
  rest : Bytes
  depth : Nat

namespace Cursor

def depthLimit : Nat := 16

def ofBytes (b : Bytes) : Cursor := ⟨b, b, 0⟩

/-- The reading of some bytes inside this one. -/
def nested? (b : Bytes) (c : Cursor) : Option Cursor :=
  if c.depth < depthLimit then some ⟨b, b, c.depth + 1⟩ else none

/-- The next word. -/
def word? (c : Cursor) : Option (Bytes × Cursor) :=
  (Rlp.cut? 32 c.rest).map fun (word, rest) => (word, { c with rest })

/-- A reading of what a distance leads to. -/
def follow? (c : Cursor) : Option (Cursor × Cursor) := do
  let (word, c) ← c.word?
  let distance := Bytes.toNat word
  if distance ≤ c.base.length then
    let inner ← c.nested? (c.base.drop distance)
    return (inner, c)
  else none

/-- Whether so many words are left. -/
def hasWords (n : Nat) (c : Cursor) : Bool := n ≤ c.rest.length / 32

end Cursor

/-- A step that reads one value. -/
abbrev Step := Cursor → Option (AbiValue × Cursor)

/-- A value that takes one word. -/
def oneWord (value : Bytes → AbiValue) : Step := fun c =>
  c.word?.map fun (word, c) => (value word, c)

def wordOf (b : Bytes) : Word := BitVec.ofNat 256 (Bytes.toNat b)

def addressOf (word : Bytes) : Address := FixedBytes.ofNat 20 (Bytes.toNat word)

def functionOf (word : Bytes) : FixedBytes 24 := FixedBytes.ofNat 24 (Bytes.toNat (word.take 24))

/-- Counted bytes that a distance leads to. -/
def countedBytes (value : Bytes → AbiValue) : Step := fun c => do
  let (inner, c) ← c.follow?
  let (count, inner) ← inner.word?
  let (content, _) ← Rlp.cut? (Bytes.toNat count) inner.rest
  return (value content, c)

/-- As many values as asked for, read one after the other. -/
def repeatedly (step : Step) : Nat → List AbiValue → Cursor → Option (List AbiValue × Cursor)
  | 0, read, c => some (read.reverse, c)
  | n + 1, read, c =>
    match step c with
    | some (v, c) => repeatedly step n (v :: read) c
    | none => none

/-- A group of values. One of fixed length is read in place and one of any other where a distance
leads. -/
def group (isDynamic : Bool) (value : List AbiValue → AbiValue)
    (members : Cursor → Option (List AbiValue × Cursor)) : Step := fun c =>
  if isDynamic then do
    let (inner, c) ← c.follow?
    let (values, _) ← members inner
    return (value values, c)
  else do
    let inner ← c.nested? c.rest
    let (values, inner) ← members inner
    return (value values, { c with rest := inner.rest })

/-- A counted array that a distance leads to, given the words that an item takes at least. The
distances inside it are counted from behind the count. Items that take no words are not listed. -/
def countedArray (words : Nat) (step : Step) : Step := fun c => do
  let (inner, c) ← c.follow?
  let (count, inner) ← inner.word?
  let n := Bytes.toNat count
  if UInt64.size ≤ n then none
  else if n = 0 ∨ words = 0 then return (.array [], c)
  else
    let items ← inner.nested? inner.rest
    if items.hasWords (n * words) then
      let (values, _) ← repeatedly step n [] items
      return (.array values, c)
    else none

mutual

/-- Reads a value of a type. -/
def read : AbiType → Step
  | .address => oneWord fun word => .address (addressOf word)
  | .bool => oneWord fun word => .bool (Bytes.toNat word ≠ 0)
  | .uint _ => oneWord fun word => .uint (wordOf word)
  | .int _ => oneWord fun word => .int (wordOf word)
  | .bytesN size => oneWord fun word => .bytesN (word.take size)
  | .function => oneWord fun word => .function (functionOf word)
  | .bytes => countedBytes .bytes
  | .string => countedBytes fun content => .string (Utf8.decode content)
  | .array item => countedArray item.words (read item)
  | .fixedArray item size => group item.isDynamic .fixedArray (repeatedly (read item) size [])
  | .tuple members => group (anyDynamic members) .tuple (readAll members)

/-- Reads values of some types, one after the other. -/
def readAll : List AbiType → Cursor → Option (List AbiValue × Cursor)
  | [], c => some ([], c)
  | t :: rest, c => do
    let (v, c) ← read t c
    let (values, c) ← readAll rest c
    return (v :: values, c)

end

/-- The arguments of some types that bytes give. Where the types tell everything there is nothing
to read, and no arguments are given. -/
def decodeArguments? (types : List AbiType) (b : Bytes) : Option (List AbiValue) :=
  if allVoid types then some []
  else
    let c := Cursor.ofBytes b
    if c.hasWords (wordsOfAll types) then (readAll types c).map (·.1) else none

end TxCourier.Abi
