import TxCourier.Json.Value

/-! # JSON tokens

The text of a value is read in two steps. The first splits it into tokens, which is done here, and
passes over blanks. Numbers and the escapes in strings are checked in this step, so a token is
always well-formed. -/
namespace TxCourier.Json

inductive Token where
  | openBrace
  | closeBrace
  | openBracket
  | closeBracket
  | colon
  | comma
  | null
  | bool (b : Bool)
  | number (literal : String)
  | string (s : JsonString)
deriving DecidableEq

def isBlank (c : Char) : Bool := c = ' ' ∨ c = '\n' ∨ c = '\t' ∨ c = '\r'

def isDigit (c : Char) : Bool := 48 ≤ c.toNat ∧ c.toNat ≤ 57

/-- The characters of which a number is made. -/
def isNumberChar (c : Char) : Bool :=
  isDigit c ∨ c = '+' ∨ c = '-' ∨ c = '.' ∨ c = 'e' ∨ c = 'E'

/-! ## Numbers -/

/-- One digit at least, and the rest. -/
def digits? (cs : List Char) : Option (List Char × List Char) :=
  match cs.span isDigit with
  | ([], _) => none
  | parts => some parts

/-- What follows the digits behind the point, which may be absent. -/
def afterFraction? : List Char → Option (List Char)
  | '.' :: rest => (digits? rest).map (·.2)
  | cs => some cs

def afterSign : List Char → List Char
  | '+' :: rest => rest
  | '-' :: rest => rest
  | cs => cs

/-- What follows the exponent, which may be absent. -/
def afterExponent? : List Char → Option (List Char)
  | 'e' :: rest => (digits? (afterSign rest)).map (·.2)
  | 'E' :: rest => (digits? (afterSign rest)).map (·.2)
  | cs => some cs

/-- Whether the characters are the literal of a number: no leading zeros, and digits on both sides
of a point. -/
def isNumber (cs : List Char) : Bool :=
  let unsigned := match cs with
    | '-' :: rest => rest
    | _ => cs
  let afterInteger : Option (List Char) := match unsigned with
    | '0' :: rest => some rest
    | _ => (digits? unsigned).map (·.2)
  (afterInteger.bind afterFraction?).bind afterExponent? = some []

/-! ## Strings -/

def hexValue? (c : Char) : Option Nat :=
  let n := c.toNat
  if 48 ≤ n ∧ n ≤ 57 then some (n - 48)
  else if 97 ≤ n ∧ n ≤ 102 then some (n - 87)
  else if 65 ≤ n ∧ n ≤ 70 then some (n - 55)
  else none

def hexUnit? (a b c d : Char) : Option Nat := do
  return 4096 * (← hexValue? a) + 256 * (← hexValue? b) + 16 * (← hexValue? c) + (← hexValue? d)

/-- The character that a backslash and one letter stand for. -/
def escaped? : Char → Option Char
  | '"' => some '"'
  | '\\' => some '\\'
  | '/' => some '/'
  | 'b' => some '\x08'
  | 'f' => some '\x0c'
  | 'n' => some '\n'
  | 'r' => some '\r'
  | 't' => some '\t'
  | _ => none

/-- What has been read of a string: its characters, newest first, and whether every escape so far
named a character. A leading half of a pair waits for its other half. -/
structure Reading where
  newestFirst : List Char
  whole : Bool
  leading : Option Nat

namespace Reading

def empty : Reading := ⟨[], true, none⟩

/-- A half that waits stands for no character after all. -/
def settle (r : Reading) : Reading :=
  match r.leading with
  | none => r
  | some _ => { r with whole := false, leading := none }

def push (c : Char) (r : Reading) : Reading :=
  let r := r.settle
  { r with newestFirst := c :: r.newestFirst }

/-- An escape that gives a 16-bit unit. -/
def pushUnit (u : Nat) (r : Reading) : Reading :=
  if 0xDC00 ≤ u ∧ u < 0xE000 then
    match r.leading with
    | some high =>
      let c := Char.ofNat (0x10000 + 1024 * (high - 0xD800) + (u - 0xDC00))
      { r with newestFirst := c :: r.newestFirst, leading := none }
    | none => { r with whole := false }
  else
    let r := r.settle
    if 0xD800 ≤ u ∧ u < 0xDC00 then { r with leading := some u }
    else { r with newestFirst := Char.ofNat u :: r.newestFirst }

def result (r : Reading) : JsonString :=
  let r := r.settle
  if r.whole then some (String.ofList r.newestFirst.reverse) else none

end Reading

/-- A string from behind its opening quote, and what follows the closing one. -/
def stringFrom : List Char → Reading → Option (JsonString × List Char)
  | [], _ => none
  | '"' :: rest, r => some (r.result, rest)
  | '\\' :: 'u' :: a :: b :: c :: d :: rest, r =>
    match hexUnit? a b c d with
    | some u => stringFrom rest (r.pushUnit u)
    | none => none
  | '\\' :: e :: rest, r =>
    match escaped? e with
    | some c => stringFrom rest (r.push c)
    | none => none
  | c :: rest, r => if c.toNat < 32 ∨ c = '\\' then none else stringFrom rest (r.push c)

/-! ## The text -/

/-- The first token of a text that does not begin with a blank, and what follows it. -/
def token? : List Char → Option (Token × List Char)
  | '\x7b' :: rest => some (.openBrace, rest)
  | '\x7d' :: rest => some (.closeBrace, rest)
  | '[' :: rest => some (.openBracket, rest)
  | ']' :: rest => some (.closeBracket, rest)
  | ':' :: rest => some (.colon, rest)
  | ',' :: rest => some (.comma, rest)
  | '"' :: rest => (stringFrom rest .empty).map fun (s, rest) => (.string s, rest)
  | 'n' :: 'u' :: 'l' :: 'l' :: rest => some (.null, rest)
  | 't' :: 'r' :: 'u' :: 'e' :: rest => some (.bool true, rest)
  | 'f' :: 'a' :: 'l' :: 's' :: 'e' :: rest => some (.bool false, rest)
  | cs =>
    let (literal, rest) := cs.span isNumberChar
    if isNumber literal then some (.number (String.ofList literal), rest) else none

/-- The tokens of a text. Each takes at least one character, so the number of characters bounds the
number of steps. -/
def tokensFrom : Nat → List Char → List Token → Option (List Token)
  | 0, cs, read => if cs.isEmpty then some read.reverse else none
  | steps + 1, cs, read =>
    match cs with
    | [] => some read.reverse
    | c :: rest =>
      if isBlank c then tokensFrom steps rest read
      else
        match token? (c :: rest) with
        | some (t, rest) => tokensFrom steps rest (t :: read)
        | none => none

def tokens? (cs : List Char) : Option (List Token) := tokensFrom cs.length cs []

end TxCourier.Json
