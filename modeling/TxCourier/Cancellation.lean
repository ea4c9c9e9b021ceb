/-! # Cancellation

A wait can be broken off from outside. For a single wait all that matters is the moment at which
that happens. Beside it stands the handle by which it is done, with the signals that observe it. -/
namespace TxCourier

/-- A point of a run, which may lie between two things that are done in one millisecond. -/
structure Moment where
  millis : Nat
  /-- How much was done by then. Without a number it is all that takes no time. -/
  count : Option Nat
deriving DecidableEq, Repr

namespace Moment

/-- Whether it has come at a certain time, when so much was done. -/
def hasCome (now count : Nat) (m : Moment) : Bool :=
  m.millis < now || (m.millis = now && m.count.any fun n => n ≤ count)

end Moment

/-- When a wait is broken off. One that was broken off already was so when nothing had been done. -/
inductive Cancellation where
  | never
  | made (m : Moment)
deriving DecidableEq, Repr

namespace Cancellation

/-- Whether it is known at a certain time, when so much was done. -/
def isSeenAt (now count : Nat) : Cancellation → Bool
  | never => false
  | made m => m.hasCome now count

/-- How long something lasts that begins now and is broken off, if it is. So it is if the
cancellation has come when it would be over, with so much done meanwhile. What takes no time is not
broken off. -/
def breaksOff? (now length count : Nat) : Cancellation → Option Nat
  | never => none
  | made m =>
    if length ≠ 0 ∧ m.hasCome (now + length) count then some (m.millis - now) else none

end Cancellation

/-- A handle that can be used while it is kept, and the signals made so far, each with the
information whether it observes the handle. -/
structure CancelRoom where
  isKept : Bool
  isCancelled : Bool
  signals : List Bool
deriving DecidableEq, Repr

namespace CancelRoom

/-- A handle with one signal. -/
def new : CancelRoom := ⟨true, false, [true]⟩

/-- Cancels, if the handle is kept, and tells whether it is. -/
def cancel (r : CancelRoom) : Bool × CancelRoom :=
  (r.isKept, if r.isKept then { r with isCancelled := true } else r)

/-- Gives up the handle, and tells whether it was kept. -/
def drop (r : CancelRoom) : Bool × CancelRoom := (r.isKept, { r with isKept := false })

/-- One more signal that observes what another one does. -/
def clone (i : Nat) (r : CancelRoom) : CancelRoom :=
  { r with signals := r.signals ++ [r.signals.getD i false] }

/-- One more signal, which observes nothing. -/
def addIdle (r : CancelRoom) : CancelRoom := { r with signals := r.signals ++ [false] }

/-- What each signal tells. -/
def seen (r : CancelRoom) : List Bool := r.signals.map fun observes => observes && r.isCancelled

/-- Whether a wait for a signal ends before its time is up, when nobody acts in the meantime. -/
def awaits (i : Nat) (r : CancelRoom) : Bool := r.seen.getD i false

end CancelRoom

end TxCourier
