import TxCourier.Courier
import TxCourier.Proofs.Session

/-! # Whoever asks a node

What is asked about a call is asked by few questions with decisions in between, none of which hands
over a transaction or finds that something is missing. So a property of attempts that single
questions have, and that goes through from step to step, is a property of each of them. The steps
that need a part of a draft are not among them. -/
namespace TxCourier

namespace Attempt

/-- A property is closed when attempts that are put together from steps with it have it as well. A
failure that says that something is missing need not have it. -/
structure Closed (P : {α : Type} → Attempt α → Prop) : Prop where
  pure : ∀ {α : Type} (x : α), P (Pure.pure x)
  throw : ∀ {α : Type} {failure : Failure}, (∀ what, failure ≠ .missing what) →
    P (MonadExcept.throw failure : Attempt α)
  bind : ∀ {α β : Type} {a : Attempt α} {f : α → Attempt β}, P a → (∀ x, P (f x)) → P (a >>= f)
  sessionAsk : ∀ {q : Query}, q.isSend = false → P (liftM (Session.ask q))

variable {P : {α : Type} → Attempt α → Prop}

theorem Closed.ask (closed : Closed P) {q : Query} (other : q.isSend = false) : P (ask q) := by
  refine closed.bind (closed.sessionAsk other) fun answer => ?_
  cases answer with
  | ok got => exact closed.pure got
  | error e => exact closed.throw (by intro _ same; cases same)

theorem Closed.ofHead (closed : Closed P) (multiplier : UInt64) :
    P (QuoteSource.ofHead multiplier) := by
  refine closed.bind (closed.ask rfl) fun head => ?_
  cases head.baseFee with
  | none => exact closed.bind (closed.ask rfl) fun price => closed.pure _
  | some baseFee => exact closed.bind (closed.ask rfl) fun tip => closed.pure _

theorem Closed.nonceOfNode (closed : Closed P) (owner : Address) (pending : Bool) :
    P (NonceSource.ofNode owner pending) := by
  cases pending with
  | true => exact closed.ask rfl
  | false => exact closed.ask rfl

theorem Closed.estimate (closed : Closed P) (message : CallMessage) :
    P (GasEstimator.ofNode message) := by
  refine closed.bind (closed.sessionAsk rfl) fun answer => ?_
  cases answer with
  | ok limit => exact closed.pure limit
  | error e =>
    refine closed.throw fun what same => ?_
    unfold Failure.ofNodeError at same
    dsimp only at same
    split at same
    · cases same
    · cases same

theorem Closed.fundsCheck (closed : Closed P) (rules : IntrinsicRules) (payer : Address)
    (data : Bytes) (recipient : Option Address) (quote : Option GasQuote) :
    P (Funds.check rules payer data recipient quote) := by
  refine closed.bind (closed.ask rfl) fun balance => ?_
  split
  · exact closed.pure ()
  · exact closed.throw (by intro _ same; cases same)

theorem Closed.floorCheck (closed : Closed P) (floor : FeeFloor) (quote : GasQuote) :
    P (floor.check quote) := by
  refine closed.bind (closed.ask rfl) fun head => ?_
  split
  · exact closed.throw (by intro _ same; cases same)
  · exact closed.pure ()

theorem Closed.checkRecipient (closed : Closed P) (strict : Bool) (d : Draft) :
    P (d.checkRecipient strict) := by
  unfold Draft.checkRecipient
  split
  · exact closed.pure ()
  · split
    · refine closed.bind (closed.ask rfl) fun code => ?_
      dsimp only
      split
      · exact closed.throw (by intro _ same; cases same)
      · split
        · exact closed.throw (by intro _ same; cases same)
        · exact closed.pure ()
    · exact closed.pure ()

end Attempt

end TxCourier
