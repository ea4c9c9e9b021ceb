import TxCourier.Cancellation
import TxCourier.Failure
import TxCourier.Node.Query

/-! # Sessions with a node

A session asks a node and leaves a trace of what was done, with a clock that only delays and pauses
move. An attempt is a session that may fail, and does nothing more once it has. -/
namespace TxCourier

/-- The milliseconds that a pause lasts at most: thirty years of 365 days. -/
def longestPause : Nat := 30 * 365 * 24 * 60 * 60 * 1000

/-- How long a pause lasts that is to last some time. The timer was seen to hold no later end, also
where its clock would reach it: a pause of 946080000001 milliseconds is over one sooner. -/
def lasting (millis : Nat) : Nat := min millis longestPause

/-- Something that was done and that others could see. -/
inductive Event where
  | asked (q : Query)
  | paused (millis : Nat)
  /-- An account was given a digest to sign. -/
  | signed (digest : Hash)
  /-- A signed transaction was shown before it was sent. -/
  | inspected (transaction : Envelope)
deriving DecidableEq

structure Trace where
  /-- Milliseconds since the session began. -/
  now : Nat
  newestFirst : List Event

namespace Trace

def start : Trace := ⟨0, []⟩

/-- What was asked, the newest question first. -/
def queries (t : Trace) : List Query :=
  t.newestFirst.filterMap fun
    | .asked q => some q
    | _ => none

/-- How much was done. -/
def count (t : Trace) : Nat := t.newestFirst.length

def record (e : Event) (t : Trace) : Trace := { t with newestFirst := e :: t.newestFirst }

def wait (millis : Nat) (t : Trace) : Trace := { t with now := t.now + millis }

end Trace

abbrev Session := ReaderT Node (StateM Trace)

abbrev Attempt := ExceptT Failure Session

namespace Session

def record (e : Event) : Session Unit := modify (Trace.record e)

/-- Asks the node and waits for the answer. -/
def ask (q : Query) : Session (Except NodeError q.Answer) := do
  let node ← read
  let reply := node (← get).queries q
  modify fun t => (t.record (.asked q)).wait reply.delay
  return reply.result

end Session

namespace Attempt

def ofExcept {α : Type} (e : Except Failure α) : Attempt α := ExceptT.mk (pure e)

/-- The same attempt, whose failure is put in other words. -/
def wrapping {α : Type} (wrap : Failure → Failure) (a : Attempt α) : Attempt α :=
  tryCatch a fun failure => throw (wrap failure)

/-- Asks the node, and fails if it refuses. -/
def ask (q : Query) : Attempt q.Answer := do
  match ← Session.ask q with
  | .ok answer => return answer
  | .error e => throw (.node e)

def record (e : Event) : Attempt Unit := Session.record e

/-- Asks the node unless the wait for its answer is broken off. One that is broken off before it
began asks nothing. -/
def askUnless (c : Cancellation) (q : Query) : Attempt q.Answer := do
  let t ← get
  if c.isSeenAt t.now t.count then throw .cancelled
  else
    let node ← read
    let reply := node t.queries q
    let begun := t.record (.asked q)
    match c.breaksOff? t.now reply.delay begun.count with
    | some elapsed =>
      set (begun.wait elapsed)
      throw .cancelled
    | none =>
      set (begun.wait reply.delay)
      match reply.result with
      | .ok answer => return answer
      | .error e => throw (.node e)

/-- Does nothing for some time unless that is broken off. -/
def pauseUnless (c : Cancellation) (millis : Nat) : Attempt Unit := do
  let t ← get
  if c.isSeenAt t.now t.count then throw .cancelled
  else
    match c.breaksOff? t.now (lasting millis) t.count with
    | some elapsed =>
      set (t.wait elapsed)
      throw .cancelled
    | none => set ((t.record (.paused millis)).wait (lasting millis))

end Attempt

end TxCourier
