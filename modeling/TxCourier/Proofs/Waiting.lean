import TxCourier.Delivery
import TxCourier.Proofs.Session

/-! # Waits hand nothing to the node

A wait only asks for a receipt and for the head, and pauses between two questions. What it finds is
not said here. -/
namespace TxCourier

open Attempt

namespace Attempt

variable {α : Type} {node : Node} {t : Trace}

theorem outcome_get_bind (f : Trace → Attempt α) :
    outcome (get >>= f) node t = outcome (f t) node t := rfl

theorem outcome_read_bind (f : Node → Attempt α) :
    outcome (read >>= f) node t = outcome (f node) node t := rfl

theorem outcome_set_bind (t' : Trace) (f : PUnit → Attempt α) :
    outcome (set t' >>= f) node t = outcome (f ⟨⟩) node t' := rfl

theorem outcome_set (t' : Trace) : outcome (set t') node t = (.ok ⟨⟩, t') := rfl

theorem Quiet.askUnless (c : Cancellation) {q : Query} (other : q.isSend = false) :
    Quiet (askUnless c q) := by
  intro node t
  have asked (delay : Nat) : ((t.record (.asked q)).wait delay).sent = t.sent :=
    Trace.sent_after other delay t
  unfold Attempt.askUnless
  rw [outcome_get_bind]
  split
  · rfl
  · rw [outcome_read_bind]
    dsimp only
    split
    · rw [outcome_set_bind]
      exact asked _
    · rw [outcome_set_bind]
      split
      · exact asked _
      · exact asked _

theorem Quiet.pauseUnless (c : Cancellation) (millis : Nat) : Quiet (pauseUnless c millis) := by
  intro node t
  unfold Attempt.pauseUnless
  rw [outcome_get_bind]
  split
  · rfl
  · split
    · rw [outcome_set_bind]
      rfl
    · rw [outcome_set]
      rfl

end Attempt

namespace Delivery

theorem quiet_firstReceipt (hash : Hash) (pause : Nat) (c : Cancellation) (left : Nat) :
    Quiet (firstReceipt hash pause c left) := by
  induction left with
  | zero => exact Quiet.pure none
  | succ left ih =>
    refine Quiet.bind (Quiet.askUnless c rfl) fun answer => ?_
    cases answer with
    | some receipt => exact Quiet.pure _
    | none =>
      dsimp only
      split
      · exact Quiet.pure none
      · exact Quiet.bind (Quiet.pauseUnless c pause) fun _ => ih

theorem quiet_isBuried (block confirmations : UInt64) (pause : Nat) (c : Cancellation)
    (fuel : Nat) : Quiet (isBuried block confirmations pause c fuel) := by
  induction fuel with
  | zero => exact Quiet.pure false
  | succ fuel ih =>
    refine Quiet.bind (Quiet.askUnless c rfl) fun head => ?_
    split
    · exact Quiet.pure true
    · exact Quiet.bind (Quiet.pauseUnless c pause) fun _ => ih

theorem quiet_await (polling : Polling) (hash : Hash) (confirmations : UInt64) (c : Cancellation)
    (fuel : Nat) : Quiet (await polling hash confirmations c fuel) := by
  refine Quiet.bind (quiet_firstReceipt hash polling.pause c _) fun found => ?_
  cases found with
  | none => exact Quiet.pure _
  | some receipt =>
    dsimp only
    split
    · exact Quiet.throw _
    · split
      · exact Quiet.pure _
      · split
        · exact Quiet.throw _
        · rename_i block _
          refine Quiet.bind (quiet_isBuried block confirmations _ c fuel) fun buried => ?_
          cases buried with
          | true => exact Quiet.pure _
          | false => exact Quiet.pure _

end Delivery

end TxCourier
