/-! # JSON values

A value as its text gives it: members keep their order and may occur twice, and a number is its
literal. An escape may name half of a surrogate pair; a string that does is well-formed and stands
for no text. -/
namespace TxCourier

/-- What a JSON string stands for, if its escapes name characters. -/
abbrev JsonString := Option String

inductive Json where
  | null
  | bool (b : Bool)
  | number (literal : String)
  | string (s : JsonString)
  | array (items : List Json)
  | object (members : List (JsonString × Json))

namespace Json

instance : Inhabited Json := ⟨.null⟩

def ofString (s : String) : Json := .string (some s)

def ofNat (n : Nat) : Json := .number n.repr

def ofInt (n : Int) : Json := .number n.repr

def ofOption {α : Type} (f : α → Json) : Option α → Json
  | none => .null
  | some a => f a

/-- An object with the given members, those that are absent left out. -/
def ofMembers (members : List (String × Option Json)) : Json :=
  .object (members.filterMap fun (name, value) => value.map fun v => (some name, v))

/-- An object with the given members. -/
def mk (members : List (String × Json)) : Json :=
  .object (members.map fun (name, value) => (some name, value))

def str? : Json → Option String
  | .string s => s
  | _ => none

def bool? : Json → Option Bool
  | .bool b => some b
  | _ => none

def items? : Json → Option (List Json)
  | .array items => some items
  | _ => none

def isNull : Json → Bool
  | .null => true
  | _ => false

mutual

/-- How deep arrays and objects are nested. -/
def depth : Json → Nat
  | .array items => depthOfItems items + 1
  | .object members => depthOfMembers members + 1
  | _ => 0

def depthOfItems : List Json → Nat
  | [] => 0
  | v :: rest => max v.depth (depthOfItems rest)

def depthOfMembers : List (JsonString × Json) → Nat
  | [] => 0
  | (_, v) :: rest => max v.depth (depthOfMembers rest)

end

/-- The value of the first member with a name. -/
def get? (name : String) : Json → Option Json
  | .object members => (members.find? fun m => m.1 == some name).map (·.2)
  | _ => none

end Json

end TxCourier
