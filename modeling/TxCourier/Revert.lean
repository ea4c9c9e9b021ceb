import TxCourier.Abi.Interface

/-! # Revert payloads

A contract that refuses a call may say why: the selector of an error, and its arguments behind it.
Two errors belong to the language of contracts and are always known; others are looked up in
interfaces. The first declaration that has the selector and can read the arguments is the one. -/
namespace TxCourier

open Abi

/-- An error as it is reported: what was declared and what the arguments are. -/
structure KnownError where
  name : String
  signature : String
  arguments : List String
  definition : String
  formatted : String
deriving DecidableEq, Repr

namespace KnownError

def of (e : ErrorDeclaration) (values : List AbiValue) : KnownError :=
  let arguments := values.map AbiValue.shown
  { name := e.name, signature := e.signature, arguments, definition := e.definition,
    formatted := e.name ++ "(" ++ ", ".intercalate arguments ++ ")" }

def toJson (k : KnownError) : Json :=
  .mk [("name", .ofString k.name), ("signature", .ofString k.signature),
    ("arguments", .array (k.arguments.map Json.ofString)),
    ("definition", .ofString k.definition), ("formatted", .ofString k.formatted)]

def ofJson? (v : Json) : Option KnownError := do
  let r ← v.record? ["name", "signature", "arguments", "definition", "formatted"]
  return { name := ← r.required "name" Json.str?, signature := ← r.required "signature" Json.str?,
           arguments := ← r.required "arguments" (Json.listOf? Json.str?),
           definition := ← r.required "definition" Json.str?,
           formatted := ← r.required "formatted" Json.str? }

end KnownError

namespace Revert

/-- A failed requirement with its reason. -/
def reasonError : ErrorDeclaration := ⟨"Error", [⟨"reason", "string", []⟩]⟩

/-- A failed assertion, an overflow or the like, with a number for which it was. -/
def panicError : ErrorDeclaration := ⟨"Panic", [⟨"code", "uint256", []⟩]⟩

/-- What a payload says if it is about a certain error. -/
def match? (selector body : Bytes) (e : ErrorDeclaration) : Option KnownError :=
  if e.selector = selector then (e.decode? body).map (KnownError.of e) else none

/-- The declarations in the order in which they are tried. -/
def candidates (interfaces : List Interface) : List ErrorDeclaration :=
  [reasonError, panicError] ++ interfaces.flatMap Interface.errors

/-- The error that a payload names. -/
def parse? (payload : Bytes) (interfaces : List Interface) : Option KnownError :=
  if payload.length < 4 then none
  else (candidates interfaces).findSome? (match? (payload.take 4) (payload.drop 4))

end Revert

end TxCourier
