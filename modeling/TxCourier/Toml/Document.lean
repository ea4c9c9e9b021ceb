import TxCourier.Toml.Scalar

/-! # Settings files

A file is a sequence of lines: headers, which open tables, and keys with values, which belong to
the table opened last. Arrays and inline tables may go on over several lines. -/
namespace TxCourier.Toml

open Json (isDigit)

def isSpace (c : Char) : Bool := c = ' ' ∨ c = '\t'

/-- The end of a comment: what follows it begins with the end of the line. -/
def afterComment? : List Char → Option (List Char)
  | [] => some []
  | '\n' :: rest => some ('\n' :: rest)
  | '\r' :: '\n' :: rest => some ('\r' :: '\n' :: rest)
  | c :: rest => if isPlain c then afterComment? rest else none

/-- What follows spaces, ends of lines and comments. The flag tells that a comment has begun. -/
def afterLines? (inComment : Bool) : List Char → Option (List Char)
  | [] => some []
  | '\n' :: rest => afterLines? false rest
  | '\r' :: '\n' :: rest => afterLines? false rest
  | c :: rest =>
    if inComment then (if isPlain c then afterLines? true rest else none)
    else if isSpace c then afterLines? false rest
    else if c = '#' then afterLines? true rest
    else some (c :: rest)

/-- What follows the end of a line, in front of which there may be a comment. -/
def afterLine? (cs : List Char) : Option (List Char) := do
  let cs := cs.dropWhile isSpace
  let cs ← match cs with
    | '#' :: rest => afterComment? rest
    | _ => some cs
  match cs with
  | [] => some []
  | '\n' :: rest => some rest
  | '\r' :: '\n' :: rest => some rest
  | _ => none

/-- How deep arrays and inline tables may be nested, and how many keys a path may have. -/
def depthLimit : Nat := 80

/-! ## Keys -/

def isBareKeyChar (c : Char) : Bool := isDigit c ∨ c.isAlpha ∨ c = '_' ∨ c = '-'

def simpleKey? (cs : List Char) : Option (String × List Char) :=
  match cs.span isBareKeyChar with
  | ([], _) => line? cs
  | (key, rest) => some (String.ofList key, rest)

/-- A key with its dots, and what follows the spaces behind it. The first argument bounds the
number of keys between the dots. -/
def key? : Nat → List Char → Option (List String × List Char)
  | 0, _ => none
  | steps + 1, cs => do
    let (first, rest) ← simpleKey? (cs.dropWhile isSpace)
    match rest.dropWhile isSpace with
    | '.' :: rest =>
      let (more, rest) ← key? steps rest
      return (first :: more, rest)
    | rest => return ([first], rest)

/-! ## Values -/

mutual

/-- A value at the head of a text. The first argument bounds the number of steps, and the second
how deep arrays and inline tables are nested. -/
def value? : Nat → Nat → List Char → Option (Value × List Char)
  | 0, _, _ => none
  | steps + 1, depth, cs =>
    match cs, depth with
    | '[' :: _, 0 => none
    | '[' :: rest, depth + 1 => (items? steps depth rest []).map fun (items, rest) =>
        (.array items, rest)
    | '\x7b' :: _, 0 => none
    | '\x7b' :: rest, depth + 1 => (members? steps depth rest []).map fun (entries, rest) =>
        (.table .inline entries, rest)
    | '"' :: _, _ => (string? cs).map fun (s, rest) => (.string s, rest)
    | '\'' :: _, _ => (string? cs).map fun (s, rest) => (.string s, rest)
    | _, _ => scalar? cs

/-- The items of an array up to its closing bracket. -/
def items? : Nat → Nat → List Char → List Value → Option (List Value × List Char)
  | 0, _, _, _ => none
  | steps + 1, depth, cs, read => do
    match ← afterLines? false cs with
    | ']' :: rest => return (read.reverse, rest)
    | cs =>
      let (v, rest) ← value? steps depth cs
      match ← afterLines? false rest with
      | ',' :: rest => items? steps depth rest (v :: read)
      | ']' :: rest => return ((v :: read).reverse, rest)
      | _ => none

/-- The entries of an inline table up to its closing brace. A path of keys is on one line. -/
def members? : Nat → Nat → List Char → Entries → Option (Entries × List Char)
  | 0, _, _, _ => none
  | steps + 1, depth, cs, read => do
    match ← afterLines? false cs with
    | '\x7d' :: rest => return (read, rest)
    | cs =>
      let (path, rest) ← key? depthLimit cs
      let rest ← after? '=' (← afterLines? false rest)
      let (v, rest) ← value? steps depth (← afterLines? false rest)
      let read ← Entries.add? path v .inline read
      match ← afterLines? false rest with
      | ',' :: rest => members? steps depth rest read
      | '\x7d' :: rest => return (read, rest)
      | _ => none

end

/-! ## Lines -/

/-- The lines of a file, added to what was read under the header that stands above them. -/
def lines? : Nat → List String → List Char → Entries → Option Entries
  | 0, _, _, _ => none
  | steps + 1, header, cs, read => do
    match ← afterLines? false cs with
    | [] => return read
    | '[' :: '[' :: rest =>
      let (path, rest) ← key? depthLimit rest
      let rest ← afterLine? (← after? ']' (← after? ']' rest))
      lines? steps path rest (← read.openNext? path)
    | '[' :: rest =>
      let (path, rest) ← key? depthLimit rest
      let rest ← afterLine? (← after? ']' rest)
      lines? steps path rest (← read.open? path)
    | cs =>
      let (path, rest) ← key? depthLimit cs
      let (v, rest) ← value? (cs.length + 1) depthLimit ((← after? '=' rest).dropWhile isSpace)
      lines? steps header (← afterLine? rest) (← read.addUnder? header path v)

/-- The table that a file writes. -/
def parse? (text : String) : Option Value :=
  let cs := match text.toList with
    | '\ufeff' :: rest => rest
    | cs => cs
  (lines? (cs.length + 1) [] cs []).map (.table .header)

end TxCourier.Toml
