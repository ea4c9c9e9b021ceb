import TxCourier.Json.Reader
import TxCourier.Toml.Table

/-! # Single values of a settings file

Numbers, dates and times, and the four kinds of strings. A number is well formed before it is known
to be one that can be held. -/
namespace TxCourier.Toml

open Json (isDigit)

/-! ## Numbers -/

/-- The digits of a radix, with single underscores between them and nowhere else. -/
def grouped? (isDigit : Char → Bool) : List Char → Option (List Char)
  | [] => none
  | c :: rest => if isDigit c then more rest [c] else none
where
  more : List Char → List Char → Option (List Char)
    | [], read => some read.reverse
    | '_' :: c :: rest, read => if isDigit c then more rest (c :: read) else none
    | c :: rest, read => if isDigit c then more rest (c :: read) else none

def valueIn (radix : Nat) (digits : List Char) : Nat :=
  digits.foldl (fun n c => radix * n + (Hex.value? c).getD 0) 0

/-- Decimal digits that do not begin with a zero, or a zero. -/
def decimal? (cs : List Char) : Option (List Char) :=
  match grouped? isDigit cs with
  | some ('0' :: _ :: _) => none
  | digits => digits

/-- The sign of a number, and the rest. -/
def signed : List Char → Bool × List Char
  | '-' :: rest => (true, rest)
  | '+' :: rest => (false, rest)
  | cs => (false, cs)

/-- Whether a character is a digit of a radix. -/
def isDigitIn (radix : Nat) (c : Char) : Bool := (Hex.value? c).any fun n => n < radix

/-- Whether every underscore stands between two digits of some radix, given whether a digit stands
in front of the first character. -/
def isSpaced : Bool → List Char → Bool
  | _, [] => true
  | before, '_' :: rest => before && (rest.take 1).any (isDigitIn 16) && isSpaced false rest
  | _, c :: rest => isSpaced (isDigitIn 16 c) rest

/-- The number that digits and underscores write, if the digits are there and are those of the
radix. -/
def valueIn? (radix : Nat) (cs : List Char) : Option Nat :=
  let digits := cs.filter fun c => c != '_'
  if ¬ digits.isEmpty ∧ digits.all (isDigitIn radix) then some (valueIn radix digits) else none

/-- The digits behind the mark of a radix. There may be none, which is no number. -/
def radixed? (radix : Nat) (cs : List Char) : Option Value :=
  if isSpaced false cs ∧ cs.all (fun c => c = '_' ∨ isDigitIn radix c) then
    some (.integer ((valueIn? radix cs).map Int.ofNat))
  else none

/-- An integer in decimal. Behind an underscore it is only asked that underscores stand between
digits; if something else stands there it is no number. -/
def integer? (cs : List Char) : Option Value :=
  let (negative, unsigned) := signed cs
  if isSpaced false unsigned ∧ (unsigned.take 1).all isDigit ∧
      (unsigned.length = 1 ∨ unsigned.head? ≠ some '0') then
    some (.integer ((valueIn? 10 unsigned).map fun n => if negative then - (n : Int) else n))
  else none

/-- Whether the characters are a number with a point, an exponent or both. -/
def isFloat (cs : List Char) : Bool :=
  let (_, unsigned) := signed cs
  let exponent (e : List Char) : Bool := (grouped? isDigit (signed e).2).isSome
  let isExponentMark (c : Char) : Bool := c = 'e' ∨ c = 'E'
  let (mantissa, e) := unsigned.span fun c => !isExponentMark c
  let (whole, fraction) := mantissa.span fun c => c != '.'
  (decimal? whole).isSome && (!fraction.isEmpty || !e.isEmpty)
    && (fraction.isEmpty || (grouped? isDigit fraction.tail).isSome)
    && (e.isEmpty || exponent e.tail)

def float? (cs : List Char) : Option Value :=
  if isFloat cs then some (.float (String.ofList (cs.filter fun c => c != '_'))) else none

/-! ## Dates and times -/

/-- A number of exactly so many digits, and the rest. -/
def fixedDigits? (count : Nat) (cs : List Char) : Option (Nat × List Char) :=
  let digits := cs.take count
  if digits.length = count ∧ digits.all isDigit then some (valueIn 10 digits, cs.drop count)
  else none

def after? (mark : Char) : List Char → Option (List Char)
  | c :: rest => if c = mark then some rest else none
  | [] => none

def daysIn (year month : Nat) : Nat :=
  if month = 2 then
    if year % 4 = 0 ∧ (year % 100 ≠ 0 ∨ year % 400 = 0) then 29 else 28
  else if month ∈ [4, 6, 9, 11] then 30 else 31

/-- What follows a date. -/
def afterDate? (cs : List Char) : Option (List Char) := do
  let (year, cs) ← fixedDigits? 4 cs
  let (month, cs) ← fixedDigits? 2 (← after? '-' cs)
  let (day, cs) ← fixedDigits? 2 (← after? '-' cs)
  if 1 ≤ month ∧ month ≤ 12 ∧ 1 ≤ day ∧ day ≤ daysIn year month then some cs else none

/-- What follows a time, whose seconds may be left out. -/
def afterTime? (cs : List Char) : Option (List Char) := do
  let (hour, cs) ← fixedDigits? 2 cs
  let (minute, cs) ← fixedDigits? 2 (← after? ':' cs)
  if 23 < hour ∨ 59 < minute then none
  else
    match cs with
    | ':' :: cs => do
      let (second, cs) ← fixedDigits? 2 cs
      if 60 < second then none
      else
        match cs with
        | '.' :: cs => (Json.digits? cs).map (·.2)
        | _ => some cs
    | _ => some cs

/-- What follows the distance from universal time. -/
def afterOffset? : List Char → Option (List Char)
  | 'Z' :: rest => some rest
  | 'z' :: rest => some rest
  | sign :: cs => do
    if sign = '+' ∨ sign = '-' then
      let (hour, cs) ← fixedDigits? 2 cs
      let (minute, cs) ← fixedDigits? 2 (← after? ':' cs)
      if hour ≤ 23 ∧ minute ≤ 59 then some cs else none
    else none
  | [] => some []

/-- Whether the characters are a time, a date, or a date with a time. -/
def isMoment (cs : List Char) : Bool :=
  match afterDate? cs with
  | some [] => true
  | some (mark :: time) =>
    (mark = 'T' || mark = 't' || mark = ' ') && ((afterTime? time).bind afterOffset?) = some []
  | none => afterTime? cs = some []

/-- The value of a word. What follows its first digits tells what it has to be. -/
def word? (word : List Char) : Option Value :=
  let (_, unsigned) := signed word
  let marksFloat (c : Char) : Bool := c = '.' ∨ c = 'e' ∨ c = 'E'
  match unsigned.span isDigit with
  | ([], _) =>
    if word = "true".toList then some (.bool true)
    else if word = "false".toList then some (.bool false)
    else if unsigned = "inf".toList ∨ unsigned = "nan".toList then
      some (.float (String.ofList word))
    else none
  | (_, []) => integer? word
  | (['0'], 'x' :: digits) => if unsigned = word then radixed? 16 digits else none
  | (['0'], 'o' :: digits) => if unsigned = word then radixed? 8 digits else none
  | (['0'], 'b' :: digits) => if unsigned = word then radixed? 2 digits else none
  | (_, c :: rest) =>
    if c = '-' ∨ c = ':' then
      if isMoment word then some (.moment (String.ofList word)) else none
    else if (c :: rest).any marksFloat then float? word
    else if c = '_' then integer? word
    else none

/-- The characters that end a word. -/
def endsWord (c : Char) : Bool :=
  c = '=' ∨ c = ',' ∨ c = '[' ∨ c = ']' ∨ c = '\x7b' ∨ c = '\x7d' ∨ c = ' ' ∨ c = '\t' ∨ c = '#'
    ∨ c = '\r' ∨ c = '\n'

/-- A value that is not between marks. Between a date and a time there may be a space. -/
def scalar? (cs : List Char) : Option (Value × List Char) :=
  let split (cs : List Char) : List Char × List Char := cs.span fun c => !endsWord c
  let (word, rest) := split cs
  let (word, rest) := match rest with
    | ' ' :: c :: more =>
      if afterDate? word = some [] ∧ isDigit c then
        let (time, rest) := split (c :: more)
        (word ++ ' ' :: time, rest)
      else (word, rest)
    | _ => (word, rest)
  (word? word).map fun v => (v, rest)

/-! ## Strings -/

/-- Whether a character may stand in a string or a comment as it is. -/
def isPlain (c : Char) : Bool := c = '\t' ∨ 32 ≤ c.toNat ∧ c.toNat ≠ 127

/-- The character that a backslash and one letter stand for. -/
def escaped? : Char → Option Char
  | 'b' => some '\x08'
  | 't' => some '\t'
  | 'n' => some '\n'
  | 'f' => some '\x0c'
  | 'r' => some '\r'
  | 'e' => some '\x1b'
  | '"' => some '"'
  | '\\' => some '\\'
  | _ => none

/-- The character with a number in hexadecimal digits, if there is one. -/
def numbered? (digits : List Char) : Option Char := do
  let _ ← digits.mapM Hex.value?
  let n := valueIn 16 digits
  if n.isValidChar then some (Char.ofNat n) else none

/-- How a string is read: with escapes or without, on one line or on several. -/
structure Quoting where
  mark : Char
  manyLines : Bool
deriving DecidableEq

def Quoting.hasEscapes (q : Quoting) : Bool := q.mark = '"'

/-- What is passed over after a backslash at the end of a line. -/
inductive Passing where
  | nothing
  /-- The line has to end. -/
  | line
  /-- Blanks up to the next character. -/
  | blanks
deriving DecidableEq

/-- A string from behind its opening marks, and what follows the closing ones. -/
def stringFrom (q : Quoting) : List Char → Passing → List Char → Option (String × List Char)
  | [], _, _ => none
  | '\r' :: '\n' :: rest, passing, read =>
    if !q.manyLines then none
    else if passing = .nothing then stringFrom q rest .nothing ('\n' :: '\r' :: read)
    else stringFrom q rest .blanks read
  | '\n' :: rest, passing, read =>
    if !q.manyLines then none
    else if passing = .nothing then stringFrom q rest .nothing ('\n' :: read)
    else stringFrom q rest .blanks read
  | c :: rest, passing, read =>
    if passing ≠ .nothing ∧ (c = ' ' ∨ c = '\t') then stringFrom q rest passing read
    else if passing = .line then none
    else if c = q.mark then
      if !q.manyLines then some (String.ofList read.reverse, rest)
      else
        let marks := 1 + (rest.takeWhile fun d => d = q.mark).length
        if marks < 3 then stringFrom q rest .nothing (c :: read)
        else
          let inside := min (marks - 3) 2
          some (String.ofList (read.reverse ++ List.replicate inside c), rest.drop (inside + 2))
    else if c = '\\' ∧ q.hasEscapes then
      match rest with
      | 'x' :: a :: b :: rest =>
        match numbered? [a, b] with
        | some d => stringFrom q rest .nothing (d :: read)
        | none => none
      | 'u' :: a :: b :: c :: d :: rest =>
        match numbered? [a, b, c, d] with
        | some e => stringFrom q rest .nothing (e :: read)
        | none => none
      | 'U' :: a :: b :: c :: d :: e :: f :: g :: h :: rest =>
        match numbered? [a, b, c, d, e, f, g, h] with
        | some i => stringFrom q rest .nothing (i :: read)
        | none => none
      | d :: rest' =>
        match escaped? d with
        | some e => stringFrom q rest' .nothing (e :: read)
        | none => if q.manyLines then stringFrom q (d :: rest') .line read else none
      | [] => none
    else if isPlain c then stringFrom q rest .nothing (c :: read)
    else none

/-- What follows one end of a line at the head of a text. -/
def afterNewline : List Char → List Char
  | '\n' :: rest => rest
  | '\r' :: '\n' :: rest => rest
  | cs => cs

/-- A string on one line. -/
def line? : List Char → Option (String × List Char)
  | c :: rest => if c = '"' ∨ c = '\'' then stringFrom ⟨c, false⟩ rest .nothing [] else none
  | [] => none

/-- A string of any kind. -/
def string? (cs : List Char) : Option (String × List Char) :=
  match cs with
  | a :: b :: c :: rest =>
    if (a = '"' ∨ a = '\'') ∧ b = a ∧ c = a then
      stringFrom ⟨a, true⟩ (afterNewline rest) .nothing []
    else line? cs
  | _ => line? cs

end TxCourier.Toml
