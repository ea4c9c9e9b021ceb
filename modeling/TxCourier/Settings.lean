import TxCourier.Gas.Intrinsic
import TxCourier.Secret
import TxCourier.Settings.Format
import TxCourier.Toml.Document

/-! # Settings

What can be set about pricing, checking and waiting, and the key to sign with. All of it has a
default but the key, which may be absent. Settings are read from a file or from JSON, and are of use
only when they are valid. -/
namespace TxCourier

structure PriceSettings where
  /-- How often the base fee goes into the cap on the fee. -/
  multiplier : UInt64
  /-- The least fee as a multiple of the base fee. -/
  numerator : UInt64
  denominator : UInt64
deriving DecidableEq

structure WaitSettings where
  /-- How often a receipt is asked for. -/
  attempts : UInt32
  /-- The seconds between two questions. -/
  pause : UInt64
deriving DecidableEq

structure Settings where
  prices : PriceSettings
  rules : IntrinsicRules
  waiting : WaitSettings
  /-- Whether a call of a contract needs data. -/
  strict : Bool
  key : Option Secret
deriving DecidableEq

namespace PriceSettings

def default : PriceSettings := ⟨2, 6, 5⟩

def toJson (s : PriceSettings) : Json :=
  .mk [("base_fee_wiggle_multiplier", .ofNat s.multiplier.toNat),
    ("min_fee_numerator", .ofNat s.numerator.toNat),
    ("min_fee_denominator", .ofNat s.denominator.toNat)]

end PriceSettings

namespace WaitSettings

def default : WaitSettings := ⟨10, 3⟩

def toJson (s : WaitSettings) : Json :=
  .mk [("retry_times", .ofNat s.attempts.toNat), ("poll_interval_seconds", .ofNat s.pause.toNat)]

/-- The milliseconds between two questions. -/
def pauseMillis (s : WaitSettings) : Nat := 1000 * s.pause.toNat

end WaitSettings

/-- What makes settings useless. -/
inductive SettingsFault where
  | zeroMultiplier
  | zeroDenominator
  | ratioBelowOne (numerator denominator : UInt64)
  | zeroAttempts
  | zeroPause
  | emptyKey
deriving DecidableEq, Repr

def SettingsFault.message : SettingsFault → String
  | zeroMultiplier => "gas.base_fee_wiggle_multiplier must be greater than 0"
  | zeroDenominator => "gas.min_fee_denominator must be greater than 0"
  | ratioBelowOne numerator denominator =>
    "gas.min_fee_numerator (" ++ numerator.toNat.repr
      ++ ") must not be lower than gas.min_fee_denominator (" ++ denominator.toNat.repr ++ ")"
  | zeroAttempts => "confirmation.retry_times must be greater than 0"
  | zeroPause => "confirmation.poll_interval_seconds must be greater than 0"
  | emptyKey => "account.private_key cannot be empty"

inductive SettingsError where
  /-- There is no file, or it is no text. -/
  | unreadable
  /-- The text is not one of settings. -/
  | malformed
  | invalid (fault : SettingsFault)
deriving DecidableEq, Repr

def SettingsError.message : SettingsError → String
  | unreadable => "IO error: unreadable file"
  | malformed => "Configuration error: malformed settings"
  | invalid fault => "Validation error: " ++ fault.message

namespace Settings

def default : Settings := ⟨.default, .all, .default, true, none⟩

/-! ## Reading and writing -/

open SettingsFormat (field? fieldOr)

def toJson (s : Settings) : Json :=
  .mk [("gas", s.prices.toJson), ("intrinsic_gas", s.rules.toJson),
    ("confirmation", s.waiting.toJson), ("preflight", .mk [("strict", .bool s.strict)]),
    ("account", .ofOption (fun key => .mk [("private_key", key.toJson)]) s.key)]

/-- Settings from a value of some format. -/
def read? {α : Type} (f : SettingsFormat α) (v : α) : Option Settings := do
  let prices (v : α) : Option PriceSettings := do
    let d := PriceSettings.default
    let fields ← f.fields?
      ["base_fee_wiggle_multiplier", "min_fee_numerator", "min_fee_denominator"] v
    return ⟨← fieldOr "base_fee_wiggle_multiplier" d.multiplier f.uint64? fields,
      ← fieldOr "min_fee_numerator" d.numerator f.uint64? fields,
      ← fieldOr "min_fee_denominator" d.denominator f.uint64? fields⟩
  let rules (v : α) : Option IntrinsicRules := do
    let fields ← f.fields? ["homestead", "istanbul", "shanghai"] v
    return ⟨← fieldOr "homestead" true f.bool? fields, ← fieldOr "istanbul" true f.bool? fields,
      ← fieldOr "shanghai" true f.bool? fields⟩
  let waiting (v : α) : Option WaitSettings := do
    let d := WaitSettings.default
    let fields ← f.fields? ["retry_times", "poll_interval_seconds"] v
    return ⟨← fieldOr "retry_times" d.attempts f.uint32? fields,
      ← fieldOr "poll_interval_seconds" d.pause f.uint64? fields⟩
  let strict (v : α) : Option Bool := do fieldOr "strict" true f.bool? (← f.fields? ["strict"] v)
  let key (v : α) : Option (Option Secret) :=
    if f.isNull v then some none
    else do
      let text ← (field? "private_key" (← f.fields? ["private_key"] v)).bind f.str?
      return some ⟨text⟩
  let fields ← f.fields? ["gas", "intrinsic_gas", "confirmation", "preflight", "account"] v
  return { prices := ← fieldOr "gas" .default prices fields,
           rules := ← fieldOr "intrinsic_gas" .all rules fields,
           waiting := ← fieldOr "confirmation" .default waiting fields,
           strict := ← fieldOr "preflight" true strict fields,
           key := ← fieldOr "account" none key fields }

def ofJson? : Json → Option Settings := read? .json

/-! ## Validity -/

/-- The first fault that settings have. -/
def fault? (s : Settings) : Option SettingsFault :=
  if s.prices.multiplier = 0 then some .zeroMultiplier
  else if s.prices.denominator = 0 then some .zeroDenominator
  else if s.prices.numerator < s.prices.denominator then
    some (.ratioBelowOne s.prices.numerator s.prices.denominator)
  else if s.waiting.attempts = 0 then some .zeroAttempts
  else if s.waiting.pause = 0 then some .zeroPause
  else if s.key.any Secret.isEmpty then some .emptyKey
  else none

def validated (s : Settings) : Except SettingsError Settings :=
  match s.fault? with
  | some fault => .error (.invalid fault)
  | none => .ok s

/-- Valid settings from the text of a file. -/
def ofToml (text : String) : Except SettingsError Settings :=
  match (Toml.parse? text).bind (read? .toml) with
  | some s => s.validated
  | none => .error .malformed

/-- Valid settings from the content of a file, if there is one. -/
def ofFile (content : Option Bytes) : Except SettingsError Settings :=
  match content.bind fun b => String.fromUTF8? ⟨b.toArray⟩ with
  | some text => ofToml text
  | none => .error .unreadable

/-- How the part with the key is shown to a developer. -/
def inspectedKey (key : Secret) : String :=
  "AccountConfig \x7b private_key: " ++ key.inspected ++ " \x7d"

end Settings

end TxCourier
