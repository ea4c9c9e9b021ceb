import TxCourier.Envelope.Basic
import TxCourier.Json.Reader

/-! # Types and signatures by themselves in JSON

A type by its name, which may also be the only member of an object whose value is null, and a
stored signature as a record of quantities. -/
namespace TxCourier

namespace TxType

def ofName? (name : String) : Option TxType := all.find? fun t => t.name == name

def toJson (t : TxType) : Json := .ofString t.name

def ofJson? : Json → Option TxType
  | .string (some name) => ofName? name
  | .object [(some name, .null)] => ofName? name
  | _ => none

theorem ofJson?_toJson (t : TxType) : ofJson? t.toJson = some t := by
  cases t <;> decide

end TxType

namespace RawSignature

def toJson (sig : RawSignature) : Json :=
  .mk [("v", .ofWord sig.v), ("r", .ofWord sig.r), ("s", .ofWord sig.s)]

def ofJson? (v : Json) : Option RawSignature := do
  let r ← v.record? ["v", "r", "s"]
  return ⟨← r.required "v" Json.word?, ← r.required "r" Json.word?, ← r.required "s" Json.word?⟩

end RawSignature

end TxCourier
