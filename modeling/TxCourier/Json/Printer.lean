import TxCourier.Json.Token

/-! # The compact text of a value

No blanks, members in their order, and an escape only where one is needed. -/
namespace TxCourier.Json

/-- How a character is written inside a string. -/
def escape (c : Char) : List Char :=
  if c = '"' then ['\\', '"']
  else if c = '\\' then ['\\', '\\']
  else if c = '\n' then ['\\', 'n']
  else if c = '\r' then ['\\', 'r']
  else if c = '\t' then ['\\', 't']
  else if c = '\x08' then ['\\', 'b']
  else if c = '\x0c' then ['\\', 'f']
  else if c.toNat < 32 then
    let hex (n : Nat) : Char := if n < 10 then Char.ofNat (48 + n) else Char.ofNat (87 + n)
    ['\\', 'u', '0', '0', hex (c.toNat / 16), hex (c.toNat % 16)]
  else [c]

/-- A string between quotes. A string that stands for no text has no characters of its own to
write, and is written empty. -/
def quoted (s : JsonString) : List Char :=
  '"' :: ((s.getD "").toList.flatMap escape ++ ['"'])

namespace Token

def text : Token → List Char
  | openBrace => ['\x7b']
  | closeBrace => ['\x7d']
  | openBracket => ['[']
  | closeBracket => [']']
  | colon => [':']
  | comma => [',']
  | null => "null".toList
  | bool true => "true".toList
  | bool false => "false".toList
  | number literal => literal.toList
  | string s => quoted s

end Token

mutual

/-- The tokens of a value. -/
def tokens : Json → List Token
  | .null => [.null]
  | .bool b => [.bool b]
  | .number literal => [.number literal]
  | .string s => [.string s]
  | .array [] => [.openBracket, .closeBracket]
  | .array (v :: rest) => .openBracket :: (tokens v ++ (itemTokens rest ++ [.closeBracket]))
  | .object [] => [.openBrace, .closeBrace]
  | .object ((name, v) :: rest) =>
    .openBrace :: .string name :: .colon :: (tokens v ++ (memberTokens rest ++ [.closeBrace]))

/-- The tokens of the items behind the first. -/
def itemTokens : List Json → List Token
  | [] => []
  | v :: rest => .comma :: (tokens v ++ itemTokens rest)

/-- The tokens of the members behind the first. -/
def memberTokens : List (JsonString × Json) → List Token
  | [] => []
  | (name, v) :: rest => .comma :: .string name :: .colon :: (tokens v ++ memberTokens rest)

end

def render (v : Json) : String := String.ofList (v.tokens.flatMap Token.text)

end TxCourier.Json
