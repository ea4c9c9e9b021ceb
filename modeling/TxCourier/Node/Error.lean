import TxCourier.Bytes.Hex
import TxCourier.Text.Phrase
import TxCourier.Word

/-! # What nodes complain about

A node answers with an error, or no answer comes at all. An answered error is looked at through the
text in which it is shown: code, data and message in one line. What it means is told by the phrases
in that text, except for a revert, which has a code of its own. -/
namespace TxCourier

inductive NodeError where
  /-- The node answered with an error. -/
  | answered (code : Int) (message : String) (data : Option String)
  /-- No answer could be had. -/
  | transport (reason : String)
  /-- The node took a transaction and reported the hash of another. -/
  | hashMismatch (expected reported : Hash)
deriving DecidableEq

namespace NodeError

def message : NodeError → String
  | answered _ message _ => message
  | transport reason => "transport error: " ++ reason
  | hashMismatch expected reported =>
    "node reported transaction hash " ++ Hex.prefixed reported.toList ++ ", expected "
      ++ Hex.prefixed expected.toList

def code? : NodeError → Option Int
  | answered code _ _ => some code
  | _ => none

def data? : NodeError → Option String
  | answered _ _ data => data
  | _ => none

end NodeError

/-- A node's error with the code and the data it goes by. -/
structure ExecutionError where
  cause : NodeError
  code : Option Int
  data : Option String
deriving DecidableEq

namespace ExecutionError

def ofNode (cause : NodeError) : ExecutionError := ⟨cause, cause.code?, cause.data?⟩

/-- The parts of the text: a code other than zero, the data, the message. -/
def parts (e : ExecutionError) : List String :=
  (match e.code with
    | some code => if code = 0 then [] else ["code=" ++ code.repr]
    | none => [])
  ++ (match e.data with
    | some data => ["data=" ++ data]
    | none => [])
  ++ [e.cause.message]

def message (e : ExecutionError) : String := ", ".intercalate e.parts

/-- Whether the text has one of some phrases. -/
def mentions (phrases : List String) (e : ExecutionError) : Bool :=
  phrases.any fun phrase => Text.hasPhrase phrase.toList e.message.toList

/-- What the text of an error may tell. -/
inductive Symptom where
  | outOfGas
  | insufficientFunds
  | insufficientFundsForTransfer
  | gasTooLow
  | gasTooHigh
  | nonceTooLow
  | nonceTooHigh
deriving DecidableEq, Repr

/-- The phrases of which one is in the text. -/
def Symptom.phrases : Symptom → List String
  | outOfGas => ["gas required exceeds"]
  | insufficientFunds => ["insufficient funds for gas"]
  | insufficientFundsForTransfer => ["insufficient funds for transfer"]
  | gasTooLow => ["intrinsic gas too low"]
  | gasTooHigh => ["exceeds block gas limit", "exceeds max transaction gas limit",
      "gas limit too high", "intrinsic gas too high"]
  | nonceTooLow => ["nonce too low"]
  | nonceTooHigh => ["nonce too high"]

def shows (s : Symptom) (e : ExecutionError) : Bool := e.mentions s.phrases

/-- The code of a reverted execution. -/
def revertedCode : Int := 3

def isReverted (e : ExecutionError) : Bool := e.code = some revertedCode

/-- What the contract said when it reverted, if it can be read. -/
def revertData? (e : ExecutionError) : Option Bytes :=
  if e.isReverted then e.data.bind fun text => (Hex.decodeLenient text).toOption else none

/-- Whether the sender cannot pay, in either wording. -/
def isShortOfFunds (e : ExecutionError) : Bool :=
  e.shows .insufficientFunds || e.shows .insufficientFundsForTransfer

end ExecutionError

end TxCourier
