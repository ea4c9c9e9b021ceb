import TxCourier.Json.Token

/-! # From tokens to values

The second step of reading: one pass over the tokens with a stack of the arrays and objects that
are still open, so that no depth of nesting is too much. -/
namespace TxCourier.Json

/-- An array or object that is still open, its contents newest first. -/
inductive Frame where
  | array (items : List Json)
  | object (members : List (JsonString × Json)) (name : JsonString)

/-- What may come next. -/
inductive Awaiting where
  | value
  /-- A value, or the end of an array that has just been opened. -/
  | firstItem
  /-- A name, or the end of an object that has just been opened. -/
  | firstName (members : List (JsonString × Json))
  | name (members : List (JsonString × Json))
  | colon (members : List (JsonString × Json)) (name : JsonString)
  /-- A comma or the end of what is open, after a value. -/
  | next (last : Json)

structure State where
  stack : List Frame
  awaiting : Awaiting

/-- A value that may begin here. -/
def begin (stack : List Frame) : Token → Option State
  | .openBrace => some ⟨stack, .firstName []⟩
  | .openBracket => some ⟨.array [] :: stack, .firstItem⟩
  | .null => some ⟨stack, .next .null⟩
  | .bool b => some ⟨stack, .next (.bool b)⟩
  | .number literal => some ⟨stack, .next (.number literal)⟩
  | .string s => some ⟨stack, .next (.string s)⟩
  | .closeBrace | .closeBracket | .colon | .comma => none

/-- What follows a value inside the innermost array or object. -/
def continue_ (last : Json) : List Frame → Token → Option State
  | .array items :: stack, .comma => some ⟨.array (last :: items) :: stack, .value⟩
  | .array items :: stack, .closeBracket => some ⟨stack, .next (.array (last :: items).reverse)⟩
  | .object members name :: stack, .comma => some ⟨stack, .name ((name, last) :: members)⟩
  | .object members name :: stack, .closeBrace =>
    some ⟨stack, .next (.object ((name, last) :: members).reverse)⟩
  | _, _ => none

def step (s : State) (t : Token) : Option State :=
  match s.awaiting, t with
  | .value, t => begin s.stack t
  | .firstItem, .closeBracket =>
    match s.stack with
    | .array _ :: stack => some ⟨stack, .next (.array [])⟩
    | _ => none
  | .firstItem, t => begin s.stack t
  | .firstName _, .closeBrace => some ⟨s.stack, .next (.object [])⟩
  | .firstName members, .string name => some ⟨s.stack, .colon members name⟩
  | .name members, .string name => some ⟨s.stack, .colon members name⟩
  | .colon members name, .colon => some ⟨.object members name :: s.stack, .value⟩
  | .next last, t => continue_ last s.stack t
  | _, _ => none

/-- The value that some tokens write. -/
def ofTokens? (ts : List Token) : Option Json :=
  match ts.foldlM step ⟨[], .value⟩ with
  | some ⟨[], .next v⟩ => some v
  | _ => none

/-- The value that a text writes, with blanks around it or none. -/
def parse? (text : String) : Option Json := (tokens? text.toList).bind ofTokens?

end TxCourier.Json
