import TxCourier.Json.Reader
import TxCourier.Toml.Reader

/-! # Formats of settings

Settings come in two formats whose values differ in what they hold and in what is asked of the parts
that are not known. A format is held here as what settings need of it. -/
namespace TxCourier

/-- How values of some format are read. -/
structure SettingsFormat (α : Type) where
  /-- The fields of a record with some known names, in their order. -/
  fields? : List String → α → Option (List (String × α))
  isNull : α → Bool
  nat? : α → Option Nat
  bool? : α → Option Bool
  str? : α → Option String

namespace SettingsFormat

def json : SettingsFormat Json :=
  { fields? := fun names v => (v.record? names).map Json.Record.fields
    isNull := Json.isNull
    nat? := Json.nat?
    bool? := Json.bool?
    str? := Json.str? }

/-- There is no null in this format. -/
def toml : SettingsFormat Toml.Value :=
  { fields? := Toml.Value.fields?
    isNull := fun _ => false
    nat? := Toml.Value.nat?
    bool? := Toml.Value.bool?
    str? := Toml.Value.str? }

variable {α β : Type}

def uint64? (f : SettingsFormat α) (v : α) : Option UInt64 :=
  (f.nat? v).bind fun n => if n < UInt64.size then some (UInt64.ofNat n) else none

def uint32? (f : SettingsFormat α) (v : α) : Option UInt32 :=
  (f.nat? v).bind fun n => if n < UInt32.size then some (UInt32.ofNat n) else none

def field? (name : String) (fields : List (String × α)) : Option α :=
  (fields.find? fun m => m.1 == name).map (·.2)

/-- A field that may be absent, which stands for a default. -/
def fieldOr (name : String) (default : β) (read? : α → Option β) (fields : List (String × α)) :
    Option β :=
  match field? name fields with
  | none => some default
  | some v => read? v

end SettingsFormat

end TxCourier
