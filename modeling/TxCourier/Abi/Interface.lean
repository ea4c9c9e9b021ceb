import TxCourier.Abi.Decoding

/-! # Contract interfaces

An interface is a list of items in JSON, of which only the declarations of errors are kept. A
declaration has a name and parameters, and its signature is the name with the types of the
parameters as they were written. -/
namespace TxCourier.Abi

/-- A parameter: its type as it was written, and the parameters in it where it is a group. -/
structure Parameter where
  name : String
  type : String
  components : List Parameter

namespace Parameter

/-- The word that stands for a group of values in the text of a type. -/
def groupWord : String := "tuple"

mutual

/-- The type as a signature has it: a group is the list of its types. -/
def typeText : Parameter → String
  | ⟨_, type, components⟩ =>
    if components.isEmpty then type
    else "(" ++ ",".intercalate (typeTexts components) ++ ")"
      ++ String.ofList (type.toList.drop groupWord.length)

def typeTexts : List Parameter → List String
  | [] => []
  | p :: rest => p.typeText :: typeTexts rest

end

mutual

/-- The type that a parameter has, if there is one. -/
def resolve? : Parameter → Option AbiType
  | ⟨_, type, components⟩ => do
    let form ← TypeForm.ofString? type
    if components.isEmpty then form.type?
    else
      let members ← resolveAll? components
      return form.sizes.foldl AbiType.inBrackets (.tuple members)

def resolveAll? : List Parameter → Option (List AbiType)
  | [] => some []
  | p :: rest => do return (← p.resolve?) :: (← resolveAll? rest)

end

/-- The type with the name behind it, where there is a name. -/
def declaration (p : Parameter) : String :=
  if p.name.isEmpty then p.typeText else p.typeText ++ " " ++ p.name

/-- Whether the text of the type can be that of a type, as far as that is asked when it is read. -/
def isWellFormed (p : Parameter) : Bool :=
  if p.components.isEmpty then (TypeForm.ofString? p.type).isSome else p.type.startsWith groupWord

/-- A name, which may be empty. -/
def identifier? (v : Json) : Option String :=
  v.str?.bind fun name => if name.isEmpty ∨ isIdentifier name.toList then some name else none

/-- A parameter and whether it is said to be indexed, given how the parameters in it are read. Its
texts have no escapes in them. -/
def described? (ofJson? : Json → Option Parameter) (v : Json) :
    Option (Parameter × Option Bool) := do
  let r ← v.record? ["name", "type", "indexed", "internalType", "components"]
  let name ← r.withDefault "name" "" identifier?
  let type ← r.required "type" Json.plain?
  let indexed ← r.optional "indexed" Json.bool?
  let _ ← r.optional "internalType" Json.plain?
  let components ← r.withDefault "components" [] (Json.listOf? ofJson?)
  let p : Parameter := ⟨name, type, components⟩
  if p.isWellFormed then some (p, indexed) else none

/-- A parameter from JSON, of which nothing is said about being indexed. The first argument bounds
how deep groups are nested. -/
def ofJson? : Nat → Json → Option Parameter
  | 0, _ => none
  | depth + 1, v => do
    let (p, indexed) ← described? (ofJson? depth) v
    if indexed.isNone then some p else none

/-- The parameter of an event, of which it may be said whether it is indexed. -/
def ofEventJson? (depth : Nat) (v : Json) : Option Parameter :=
  (described? (ofJson? depth) v).map (·.1)

end Parameter

structure ErrorDeclaration where
  name : String
  inputs : List Parameter

namespace ErrorDeclaration

def signature (e : ErrorDeclaration) : String :=
  e.name ++ "(" ++ ",".intercalate (e.inputs.map Parameter.typeText) ++ ")"

/-- The declaration with the names of the parameters. -/
def definition (e : ErrorDeclaration) : String :=
  e.name ++ "(" ++ ", ".intercalate (e.inputs.map Parameter.declaration) ++ ")"

/-- The first four bytes of the digest of the signature, by which data name the error. -/
def selector (e : ErrorDeclaration) : Bytes := (keccak256 (Hex.octets e.signature)).toList.take 4

/-- The arguments that data give, if the types exist and the data can be read as such. -/
def decode? (e : ErrorDeclaration) (body : Bytes) : Option (List AbiValue) := do
  decodeArguments? (← Parameter.resolveAll? e.inputs) body

end ErrorDeclaration

/-- The errors of an interface by name, those of one name in the order of their declaration. -/
structure Interface where
  errors : List ErrorDeclaration

namespace Interface

/-- What an item of an interface declares. -/
inductive Declaration where
  | error (e : ErrorDeclaration)
  /-- A constructor and the like, of which there is one at most. -/
  | single (kind : String)
  | other

/-- A word, which may stand as the name of a member without content. -/
def word? : Json → Option String
  | .object [(name, .null)] => name
  | .object [(name, .object [])] => name
  | v => v.str?

/-- How a function may touch the state. Two flags say it in old interfaces, and not both hold. -/
def mutability? (v : Json) : Option Unit := do
  let r ← v.record? ["stateMutability", "payable", "constant"]
  let how ← r.optional "stateMutability" word?
  let payable ← r.optional "payable" Json.bool?
  let constant ← r.optional "constant" Json.bool?
  match how with
  | some how => if how ∈ ["pure", "view", "nonpayable", "payable"] then some () else none
  | none => if payable = some true ∧ constant = some true then none else some ()

/-- A list of parameters under a name. -/
def parameters? (read? : Nat → Json → Option Parameter) (r : Json.Record) (name : String)
    (depth : Nat) : Option (List Parameter) :=
  r.required name (Json.listOf? (read? depth))

/-- A declaration from the rest of an item, given its kind. What may touch the state is declared
by named members only. -/
def declarationOf? (kind : String) (rest : Json) : Option Declaration := do
  let depth := rest.depth
  match kind with
  | "error" =>
    let r ← rest.record? ["name", "inputs"]
    return .error ⟨← r.required "name" Parameter.identifier?,
      ← parameters? Parameter.ofJson? r "inputs" depth⟩
  | "event" =>
    let r ← rest.record? ["name", "inputs", "anonymous"]
    let _ ← r.required "name" Parameter.identifier?
    let _ ← parameters? Parameter.ofEventJson? r "inputs" depth
    let _ ← r.required "anonymous" Json.bool?
    return .other
  | _ =>
    let r ← rest.record? ["name", "inputs", "outputs"]
    let _ ← mutability? rest
    if !r.byName then none
    else
      match kind with
      | "function" =>
        let _ ← r.required "name" Parameter.identifier?
        let _ ← parameters? Parameter.ofJson? r "inputs" depth
        let _ ← parameters? Parameter.ofJson? r "outputs" depth
        return .other
      | "constructor" =>
        let _ ← parameters? Parameter.ofJson? r "inputs" depth
        return .single kind
      | "fallback" | "receive" => return .single kind
      | _ => none

def declaration? (item : Json) : Option Declaration := do
  let (kind, rest) ← item.tagged? "type"
  declarationOf? kind rest

/-- An interface from its JSON. -/
def ofJson? (v : Json) : Option Interface := do
  let declared ← v.listOf? declaration?
  let singles := declared.filterMap fun
    | .single kind => some kind
    | _ => none
  let errors := declared.filterMap fun
    | .error e => some e
    | _ => none
  if singles.Nodup then
    some ⟨errors.mergeSort fun a b => a.name ≤ b.name⟩
  else none

end Interface

end TxCourier.Abi
