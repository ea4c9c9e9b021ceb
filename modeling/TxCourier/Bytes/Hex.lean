import TxCourier.Bytes.Basic

/-! # Hexadecimal text

Bytes and numbers as lower-case digits, and two readers. The strict one takes an even number of
digits of either case. The lenient one takes what nodes put into error data: a prefix or none, and
an odd number of digits, which are padded on the left. -/
namespace TxCourier.Hex

/-- The digit of a value below sixteen. -/
def digit (n : Nat) : Char :=
  if n < 10 then Char.ofNat (48 + n) else Char.ofNat (87 + n)

/-- The value of a digit of either case. -/
def value? (c : Char) : Option Nat :=
  let n := c.toNat
  if 48 ≤ n ∧ n ≤ 57 then some (n - 48)
  else if 97 ≤ n ∧ n ≤ 102 then some (n - 87)
  else if 65 ≤ n ∧ n ≤ 70 then some (n - 55)
  else none

/-- Two digits for each byte, the high one first. -/
def digits (b : Bytes) : List Char :=
  b.flatMap fun x => [digit (x.toNat / 16), digit (x.toNat % 16)]

def encode (b : Bytes) : String := String.ofList (digits b)

/-- The digits behind the prefix `0x`. -/
def prefixed (b : Bytes) : String := "0x" ++ encode b

/-- A number in as few digits as it takes, behind the prefix `0x`. -/
def quantity (n : Nat) : String := "0x" ++ String.ofList (Nat.toDigits 16 n)

def bytesFrom : List Char → Bytes → Option Bytes
  | [], read => some read.reverse
  | [_], _ => none
  | a :: b :: rest, read =>
    match value? a, value? b with
    | some x, some y => bytesFrom rest ((16 * x + y).toUInt8 :: read)
    | _, _ => none

/-- The bytes written by an even number of digits, and nothing for any other text. -/
def bytes? (cs : List Char) : Option Bytes := bytesFrom cs []

/-- The text behind one prefix `0x` or `0X`, or all of it where there is none. -/
def afterPrefix : List Char → List Char
  | '0' :: 'x' :: rest => rest
  | '0' :: 'X' :: rest => rest
  | cs => cs

/-- The bytes of a text of digits whose prefix is optional. -/
def decode? (s : String) : Option Bytes := bytes? (afterPrefix s.toList)

/-- The text with a prefix in front, unless it has one. -/
def withPrefix (s : String) : String :=
  match s.toList with
  | '0' :: 'x' :: _ => s
  | '0' :: 'X' :: _ => s
  | _ => "0x" ++ s

def withoutPrefix (s : String) : String := String.ofList (afterPrefix s.toList)

/-- The first octet of a text that is no digit, and how many octets stand before it. -/
structure BadDigit where
  octet : UInt8
  position : Nat
deriving DecidableEq, Repr

/-- How an octet is shown between quotes: as the character of that number, with the quote, the
backslash and everything that leaves no mark on paper escaped. -/
def BadDigit.shown (octet : UInt8) : String :=
  let n := octet.toNat
  if n = 0 then "\\0"
  else if n = 9 then "\\t"
  else if n = 10 then "\\n"
  else if n = 13 then "\\r"
  else if n = 39 then "\\'"
  else if n = 92 then "\\\\"
  else if n < 32 ∨ (127 ≤ n ∧ n ≤ 160) ∨ n = 173 then
    "\\u\x7b" ++ String.ofList (Nat.toDigits 16 n) ++ "\x7d"
  else String.singleton (Char.ofNat n)

def BadDigit.message (e : BadDigit) : String :=
  "Invalid character '" ++ shown e.octet ++ "' at position " ++ e.position.repr

/-- The octets of a text in UTF-8. -/
def octets (s : String) : Bytes := s.toUTF8.toList

/-- The number of octets in front of the first that is no digit. -/
def firstBad (position : Nat) : Bytes → Option BadDigit
  | [] => none
  | x :: rest =>
    match value? (Char.ofNat x.toNat) with
    | some _ => firstBad (position + 1) rest
    | none => some ⟨x, position⟩

/-- The bytes of a text of digits, its prefix optional and an odd number of octets padded with a
zero digit. A failure names the first octet that is no digit, counted after the padding. -/
def decodeLenient (s : String) : Except BadDigit Bytes :=
  let text := octets (withoutPrefix s)
  let padded := if text.length % 2 = 1 then 48 :: text else text
  match firstBad 0 padded with
  | some bad => .error bad
  | none => .ok ((bytes? (padded.map fun x => Char.ofNat x.toNat)).getD [])

/-- The leading characters that take exactly `n` octets in UTF-8, if a character ends there. -/
def leading? : Nat → List Char → Option (List Char)
  | 0, _ => some []
  | _ + 1, [] => none
  | n + 1, c :: rest =>
    if c.utf8Size ≤ n + 1 then (leading? (n + 1 - c.utf8Size) rest).map (c :: ·) else none

/-- An identifier cut for display after ten octets. There is no result where the cut would split a
character. -/
def shorten? (id : String) : Option String :=
  if id.utf8ByteSize ≤ 10 then some id
  else (leading? 10 id.toList).map fun cs => String.ofList cs ++ ".."

end TxCourier.Hex
