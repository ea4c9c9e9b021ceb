import TxCourier.Json.Value
import TxCourier.Text.Blank

/-! # Secrets

A text that is never shown: every form of it but the exposed one is a fixed mark. -/
namespace TxCourier

structure Secret where
  exposed : String
deriving DecidableEq

namespace Secret

/-- What stands for a secret wherever it is shown or written out. -/
def mark : String := "***REDACTED***"

/-- The text by which a secret is shown to its user. -/
def shown (_ : Secret) : String := mark

/-- The text by which a secret is shown to a developer. -/
def inspected (_ : Secret) : String := "SecretString(" ++ mark ++ ")"

/-- What a secret is written out as. -/
def toJson (s : Secret) : Json := .ofString s.shown

def ofJson? (v : Json) : Option Secret := v.str?.map Secret.mk

/-- Whether there is nothing but blanks. -/
def isEmpty (s : Secret) : Bool := (Text.trim s.exposed.toList).isEmpty

end Secret

end TxCourier
