import TxCourier.Json.Reader

/-! # Types of contract arguments

A type is given as text, and reading that text takes two steps with failures of their own. The text
has to have the form of a type: a name or a list of types in parentheses, then array brackets. Then
the name has to be that of a type, with a width that exists. -/
namespace TxCourier.Abi

inductive AbiType where
  | address
  | bool
  | uint (bits : Nat)
  | int (bits : Nat)
  /-- A fixed number of bytes. -/
  | bytesN (size : Nat)
  /-- An address and a selector. -/
  | function
  | bytes
  | string
  | array (item : AbiType)
  | fixedArray (item : AbiType) (size : Nat)
  | tuple (members : List AbiType)

mutual

/-- Whether the encoding has no fixed length. -/
def AbiType.isDynamic : AbiType → Bool
  | .bytes | .string | .array _ => true
  | .fixedArray item _ => item.isDynamic
  | .tuple members => anyDynamic members
  | _ => false

def anyDynamic : List AbiType → Bool
  | [] => false
  | t :: rest => t.isDynamic || anyDynamic rest

end

mutual

/-- Whether every value of the type is known before anything is read. -/
def AbiType.isVoid : AbiType → Bool
  | .array item => item.isVoid
  | .fixedArray item size => size == 0 || item.isVoid
  | .tuple members => allVoid members
  | _ => false

def allVoid : List AbiType → Bool
  | [] => true
  | t :: rest => t.isVoid && allVoid rest

end

mutual

/-- The least number of words that a value takes, those behind a distance not counted. -/
def AbiType.words : AbiType → Nat
  | .fixedArray item size => size * item.words
  | .tuple members => wordsOfAll members
  | _ => 1

def wordsOfAll : List AbiType → Nat
  | [] => 0
  | t :: rest => t.words + wordsOfAll rest

end

/-- A type in brackets: of any length, or of a length above zero. -/
def AbiType.inBrackets (t : AbiType) : Option Nat → AbiType
  | none => .array t
  | some n => .fixedArray t n

/-! ## The form of a type -/

/-- A name or a list of types, and the brackets behind it from left to right. -/
inductive TypeForm where
  | named (name : List Char) (sizes : List (Option Nat))
  | listed (members : List TypeForm) (sizes : List (Option Nat))

def isIdentifierStart (c : Char) : Bool :=
  let n := c.toNat
  (65 ≤ n ∧ n ≤ 90) ∨ (97 ≤ n ∧ n ≤ 122) ∨ c = '_' ∨ c = '$'

def isIdentifierChar (c : Char) : Bool := isIdentifierStart c ∨ Json.isDigit c

/-- Whether some text is a name. -/
def isIdentifier : List Char → Bool
  | [] => false
  | c :: rest => isIdentifierStart c && rest.all isIdentifierChar

/-- Array brackets, as many as follow. A length of zero is no length. -/
def sizes? : Nat → List Char → Option (List (Option Nat) × List Char)
  | 0, _ => none
  | steps + 1, '[' :: rest =>
    match rest.span Json.isDigit with
    | (digits, ']' :: rest) =>
      if digits.isEmpty then (sizes? steps rest).map fun (more, rest) => (none :: more, rest)
      else
        let length := Decimal.ofDigits digits
        if length = 0 ∨ UInt64.size ≤ length then none
        else (sizes? steps rest).map fun (more, rest) => (some length :: more, rest)
    | _ => none
  | _ + 1, cs => some ([], cs)

/-- A name. A name with a point behind it, and perhaps one more name, is that of an enumeration,
which is held in eight bits. -/
def name? (cs : List Char) : Option (List Char × List Char) :=
  let (name, rest) := cs.span isIdentifierChar
  if !isIdentifier name then none
  else
    match rest with
    | '.' :: more =>
      let (_, rest) := if (more.take 1).all isIdentifierStart then more.span isIdentifierChar
        else ([], more)
      some ("uint8".toList, rest)
    | _ => some (name, rest)

/-- What may stand between the types of a list. -/
def isGap (c : Char) : Bool := c = ' ' ∨ c = '\t'

/-- The types that follow the first of a list, each directly behind a comma and gaps. The number
bounds the steps. -/
def others (form? : List Char → Option (TypeForm × List Char)) :
    Nat → List Char → List TypeForm × List Char
  | steps + 1, ',' :: rest =>
    match form? (rest.dropWhile isGap) with
    | some (next, rest) =>
      let (more, rest) := others form? steps rest
      (next :: more, rest)
    | none => ([], ',' :: rest)
  | _, cs => ([], cs)

/-- The types from behind an opening parenthesis up to the closing one. A comma may stand behind
the last. -/
def list? (form? : List Char → Option (TypeForm × List Char)) (cs : List Char) :
    Option (List TypeForm × List Char) :=
  match cs.dropWhile isGap with
  | ')' :: rest => some ([], rest)
  | cs => do
    let (first, rest) ← form? cs
    let (more, rest) := others form? rest.length rest
    let rest := match rest with
      | ',' :: rest => rest
      | _ => rest
    match rest.dropWhile isGap with
    | ')' :: rest => some (first :: more, rest)
    | _ => none

/-- A type at the head of some text, in which types are nested no deeper than given. -/
def form? : Nat → List Char → Option (TypeForm × List Char)
  | 0, _ => none
  | depth + 1, cs => do
    let members := match cs with
      | '(' :: rest => some rest
      | 't' :: 'u' :: 'p' :: 'l' :: 'e' :: '(' :: rest => some rest
      | _ => none
    match members with
    | some rest =>
      let (members, rest) ← list? (form? depth) rest
      let (sizes, rest) ← sizes? (rest.length + 1) rest
      return (.listed members sizes, rest)
    | none =>
      let (name, rest) ← name? cs
      let (sizes, rest) ← sizes? (rest.length + 1) rest
      return (.named name sizes, rest)

/-- How deep types may be nested. -/
def TypeForm.depthLimit : Nat := 80

/-- The form of a text that is a type and nothing else. -/
def TypeForm.ofString? (text : String) : Option TypeForm :=
  match form? depthLimit text.toList with
  | some (form, []) => some form
  | _ => none

/-! ## The type of a form -/

/-- A width in decimal digits. -/
def width? (digits : List Char) : Option Nat :=
  if ¬ digits.isEmpty ∧ digits.all Json.isDigit then some (Decimal.ofDigits digits) else none

/-- The type with a name. -/
def typeNamed? (name : List Char) : Option AbiType :=
  let integer (digits : List Char) : Option Nat := do
    let n ← width? digits
    if 0 < n ∧ n ≤ 256 ∧ n % 8 = 0 then some n else none
  match String.ofList name with
  | "address" => some .address
  | "function" => some .function
  | "bool" => some .bool
  | "string" => some .string
  | "bytes" => some .bytes
  | "uint" => some (.uint 256)
  | "int" => some (.int 256)
  | _ =>
    match name with
    | 'b' :: 'y' :: 't' :: 'e' :: 's' :: digits => do
      let n ← width? digits
      if 0 < n ∧ n ≤ 32 then some (.bytesN n) else none
    | 'u' :: 'i' :: 'n' :: 't' :: digits => (integer digits).map .uint
    | 'i' :: 'n' :: 't' :: digits => (integer digits).map .int
    | _ => none

mutual

/-- The type of a form, if all its names are those of types. -/
def TypeForm.type? : TypeForm → Option AbiType
  | .named name sizes => (typeNamed? name).map fun t => sizes.foldl AbiType.inBrackets t
  | .listed members sizes =>
    (types? members).map fun ts => sizes.foldl AbiType.inBrackets (.tuple ts)

def types? : List TypeForm → Option (List AbiType)
  | [] => some []
  | form :: rest => do return (← form.type?) :: (← types? rest)

end

/-- The brackets of a form. -/
def TypeForm.sizes : TypeForm → List (Option Nat)
  | .named _ sizes => sizes
  | .listed _ sizes => sizes

end TxCourier.Abi
