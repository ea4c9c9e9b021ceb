import TxCourier.Json.Parser
import TxCourier.Json.Printer
import TxCourier.Bytes.Hex
import TxCourier.Text.Decimal
import TxCourier.Text.Radix
import TxCourier.Word

/-! # What a value is read as

Quantities, byte strings and records. A record is an object, whose unknown names are passed over
and whose known names occur once at most, or an array with the fields in their order. -/
namespace TxCourier.Json

/-! ## Numbers and bytes -/

/-- The integer of at most 64 bits and without a sign that a number literal writes. -/
def nat? : Json → Option Nat
  | .number literal =>
    if literal.toList.all isDigit then
      match literal.toNat? with
      | some n => if n < UInt64.size then some n else none
      | none => none
    else none
  | _ => none

/-- A quantity below `limit`: a number, or text in one of several radixes. -/
def quantity? (limit : Nat) : Json → Option Nat
  | .string (some text) => Radix.parse? limit text
  | v =>
    match v.nat? with
    | some n => if n < limit then some n else none
    | none => none

def word? (v : Json) : Option Word := (v.quantity? Word.size).map (BitVec.ofNat 256)

def uint64? (v : Json) : Option UInt64 := (v.quantity? UInt64.size).map UInt64.ofNat

def uint8? (v : Json) : Option UInt8 := (v.quantity? UInt8.size).map UInt8.ofNat

def byte? (v : Json) : Option UInt8 :=
  match v.nat? with
  | some n => if n < 256 then some n.toUInt8 else none
  | none => none

/-- A byte string: an even number of digits behind a prefix or none, or an array of bytes. -/
def bytes? : Json → Option Bytes
  | .string (some text) => Hex.decode? text
  | .array items => items.mapM byte?
  | _ => none

def fixed? (n : Nat) (v : Json) : Option (FixedBytes n) := v.bytes?.bind FixedBytes.ofList?

/-- A text in which every character is written as it is. -/
def plain? (v : Json) : Option String :=
  v.str?.bind fun s => if s.toList.all fun c => escape c = [c] then some s else none

def listOf? {α : Type} (item? : Json → Option α) (v : Json) : Option (List α) :=
  v.items?.bind fun items => items.mapM item?

def ofQuantity (n : Nat) : Json := .ofString (Hex.quantity n)

def ofWord (w : Word) : Json := ofQuantity w.toNat

def ofBytes (b : Bytes) : Json := .ofString (Hex.prefixed b)

def ofFixed {n : Nat} (b : FixedBytes n) : Json := ofBytes b.toList

/-! ## Records -/

/-- The fields of a record, and whether they were given by name. -/
structure Record where
  fields : List (String × Json)
  byName : Bool

/-- Whether one of the names occurs twice. -/
def repeats (names : List String) (members : List (String × Json)) : Bool :=
  names.any fun name => 1 < (members.filter fun m => m.1 == name).length

/-- The record with some known names, in their order, that a value gives. -/
def record? (names : List String) : Json → Option Record
  | .object members => do
    let members ← members.mapM fun (name, v) => name.map fun n => (n, v)
    if repeats names members then none else some ⟨members, true⟩
  | .array items => if items.length ≤ names.length then some ⟨names.zip items, false⟩ else none
  | _ => none

/-- The kind of a tagged value and the rest of it: the kind is a member with a given name, or the
first item of an array. -/
def tagged? (name : String) : Json → Option (String × Json)
  | .object members =>
    match members.filter fun m => m.1 == some name with
    | [(_, .string (some kind))] => some (kind, .object (members.filter fun m => m.1 != some name))
    | _ => none
  | .array (.string (some kind) :: rest) => some (kind, .array rest)
  | _ => none

namespace Record

def find? (r : Record) (name : String) : Option Json :=
  (r.fields.find? fun m => m.1 == name).map (·.2)

variable {α : Type}

/-- A field that has to be there. -/
def required (r : Record) (name : String) (read? : Json → Option α) : Option α :=
  (r.find? name).bind read?

/-- A field that may be absent or null. -/
def optional (r : Record) (name : String) (read? : Json → Option α) : Option (Option α) :=
  match r.find? name with
  | none => some none
  | some .null => some none
  | some v => (read? v).map some

/-- A field that has to be there and may be null. -/
def orNull (r : Record) (name : String) (read? : Json → Option α) : Option (Option α) :=
  if (r.find? name).isSome then r.optional name read? else none

/-- A field that may be null, and absent where fields are given by name. -/
def nullable (r : Record) (name : String) (read? : Json → Option α) : Option (Option α) :=
  if r.byName then r.optional name read? else r.orNull name read?

/-- A field that may be absent, which stands for a default, and is not null. -/
def withDefault (r : Record) (name : String) (default : α) (read? : Json → Option α) : Option α :=
  match r.find? name with
  | none => some default
  | some v => read? v

end Record

/-! ## Values that are held before they are read

Some records are read only after all their members have been taken in. Then each member has to
stand for something: whole strings, numbers in the range of floating point, and no more than a
fixed depth of nesting. -/

mutual

/-- Whether a value stands for something and has at most the given depth. -/
def isDefinite : Nat → Json → Bool
  | _, .null => true
  | _, .bool _ => true
  | _, .number literal => (Decimal.ofLiteral literal.toList).isFiniteByParts
  | _, .string s => s.isSome
  | 0, .array _ => false
  | depth + 1, .array items => allDefinite depth items
  | 0, .object _ => false
  | depth + 1, .object members => membersDefinite depth members

def allDefinite : Nat → List Json → Bool
  | _, [] => true
  | depth, v :: rest => isDefinite depth v && allDefinite depth rest

def membersDefinite : Nat → List (JsonString × Json) → Bool
  | _, [] => true
  | depth, (name, v) :: rest => name.isSome && isDefinite depth v && membersDefinite depth rest

end

/-- How deep arrays and objects may be nested in a value that is held. -/
def depthLimit : Nat := 127

end TxCourier.Json
