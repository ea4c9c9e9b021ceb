import TxCourier.Abi.Value

/-! # The encoding of arguments

The values of a list are laid out as a row of heads and a row of tails. A value of fixed length is
its own head; of any other, the head is the distance from the beginning of the heads to its tail. -/
namespace TxCourier.Abi

/-- What a value adds to the two rows. -/
inductive Part where
  | inPlace (head : Bytes)
  | behind (tail : Bytes)

namespace Part

def headSize : Part → Nat
  | inPlace head => head.length
  | behind _ => 32

def tail : Part → Bytes
  | inPlace _ => []
  | behind tail => tail

/-- The heads, given where the next tail begins. -/
def heads : Nat → List Part → Bytes
  | _, [] => []
  | next, inPlace head :: rest => head ++ heads next rest
  | next, behind tail :: rest => Bytes.ofNatWidth 32 next ++ heads (next + tail.length) rest

/-- Both rows. -/
def layout (parts : List Part) : Bytes :=
  heads (parts.foldl (fun n part => n + part.headSize) 0) parts ++ parts.flatMap tail

end Part

/-- Bytes with zeros behind them up to a whole number of words. -/
def padded (b : Bytes) : Bytes := b ++ List.replicate ((32 - b.length % 32) % 32) 0

/-- Bytes behind their number. -/
def counted (b : Bytes) : Bytes := Bytes.ofNatWidth 32 b.length ++ padded b

mutual

/-- The encoding of a value of a type. -/
def encode : AbiValue → Bytes
  | .address a => List.replicate 12 0 ++ a.toList
  | .bool b => Bytes.ofNatWidth 32 (if b then 1 else 0)
  | .uint w => Bytes.ofNatWidth 32 w.toNat
  | .int w => Bytes.ofNatWidth 32 w.toNat
  | .bytesN b => padded b
  | .function b => padded b.toList
  | .bytes b => counted b
  | .string s => counted (Hex.octets s)
  | .array items => Bytes.ofNatWidth 32 items.length ++ Part.layout (parts items)
  | .fixedArray items => Part.layout (parts items)
  | .tuple members => Part.layout (parts members)

/-- A value is laid out behind the heads where its encoding has no fixed length. -/
def parts : List AbiValue → List Part
  | [] => []
  | v :: rest => (if isDynamic v then .behind (encode v) else .inPlace (encode v)) :: parts rest

def isDynamic : AbiValue → Bool
  | .bytes _ | .string _ | .array _ => true
  | .fixedArray items => anyDynamicValue items
  | .tuple members => anyDynamicValue members
  | _ => false

def anyDynamicValue : List AbiValue → Bool
  | [] => false
  | v :: rest => isDynamic v || anyDynamicValue rest

end

/-- The encoding of the arguments of a call. -/
def encodeArguments (values : List AbiValue) : Bytes := Part.layout (parts values)

end TxCourier.Abi
