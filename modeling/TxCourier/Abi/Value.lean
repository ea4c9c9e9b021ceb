import TxCourier.Abi.Type
import TxCourier.Account

/-! # Values of contract arguments

What the encoding of an argument stands for, which values a type has, and how a value is shown. An
integer is a word: that it fits the width of its type is not asked when it is read. -/
namespace TxCourier.Abi

inductive AbiValue where
  | address (a : Address)
  | bool (b : Bool)
  | uint (w : Word)
  | int (w : Word)
  | bytesN (b : Bytes)
  | function (b : FixedBytes 24)
  | bytes (b : Bytes)
  | string (s : String)
  | array (items : List AbiValue)
  | fixedArray (items : List AbiValue)
  | tuple (members : List AbiValue)

namespace AbiValue

mutual

/-- Addresses in mixed case, numbers in decimal, bytes in hexadecimal, texts as they are. -/
def shown : AbiValue → String
  | .address a => a.checksummed
  | .bool true => "true"
  | .bool false => "false"
  | .uint w => w.decimal
  | .int w => w.toInt.repr
  | .bytesN b => Hex.prefixed b
  | .function b => "Function(" ++ Hex.prefixed b.toList ++ ")"
  | .bytes b => Hex.prefixed b
  | .string s => s
  | .array items => "[" ++ ", ".intercalate (allShown items) ++ "]"
  | .fixedArray items => "[" ++ ", ".intercalate (allShown items) ++ "]"
  | .tuple members => "(" ++ ", ".intercalate (allShown members) ++ ")"

def allShown : List AbiValue → List String
  | [] => []
  | v :: rest => v.shown :: allShown rest

end

end AbiValue

mutual

/-- The values of a type. -/
inductive HasType : AbiValue → AbiType → Prop
  | address {a : Address} : HasType (.address a) .address
  | bool {b : Bool} : HasType (.bool b) .bool
  /-- A word in which the bits above the width are zero. -/
  | uint {bits : Nat} (n : BitVec bits) : HasType (.uint (n.setWidth 256)) (.uint bits)
  /-- A word in which the bits above the width are the sign. -/
  | int {bits : Nat} (n : BitVec bits) : HasType (.int (n.signExtend 256)) (.int bits)
  | bytesN {b : Bytes} {size : Nat} : b.length = size → HasType (.bytesN b) (.bytesN size)
  | function {b : FixedBytes 24} : HasType (.function b) .function
  | bytes {b : Bytes} : HasType (.bytes b) .bytes
  | string {s : String} : HasType (.string s) .string
  | array {items : List AbiValue} {item : AbiType} : AllOfType items item →
      HasType (.array items) (.array item)
  | fixedArray {items : List AbiValue} {item : AbiType} {size : Nat} : AllOfType items item →
      items.length = size → HasType (.fixedArray items) (.fixedArray item size)
  | tuple {members : List AbiValue} {types : List AbiType} : HaveTypes members types →
      HasType (.tuple members) (.tuple types)

inductive AllOfType : List AbiValue → AbiType → Prop
  | nil {t : AbiType} : AllOfType [] t
  | cons {v : AbiValue} {rest : List AbiValue} {t : AbiType} : HasType v t → AllOfType rest t →
      AllOfType (v :: rest) t

/-- Values that have some types, one after the other. -/
inductive HaveTypes : List AbiValue → List AbiType → Prop
  | nil : HaveTypes [] []
  | cons {v : AbiValue} {rest : List AbiValue} {t : AbiType} {types : List AbiType} :
      HasType v t → HaveTypes rest types → HaveTypes (v :: rest) (t :: types)

end

end TxCourier.Abi
