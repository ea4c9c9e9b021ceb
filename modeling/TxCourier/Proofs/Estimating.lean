import TxCourier.Proofs.Broadcast

/-! # What an estimate foretells

An estimate and a delivery that sends nothing take the same steps up to the decision on the price.
What they have in common is an attempt of its own here, and each of the two is that attempt with its
own end. Two runs are compared that begin at the same point, or at any two points where neither the
node nor whoever the courier asks minds what came before. That the decision on the price would be
the same later is not asserted. -/
namespace TxCourier

open Attempt

/-! ## Answers that depend on the question only -/

/-- Earlier questions make no difference to an answer. -/
def Node.IsSteady (node : Node) : Prop :=
  ∀ asked asked' q, (node asked q).result = (node asked' q).result

namespace Attempt

variable {α β : Type} {node : Node} {t t' : Trace}

/-- With a node of that kind, the end of the attempt does not depend on what came before. -/
def IsSteady (a : Attempt α) : Prop :=
  ∀ node : Node, node.IsSteady → ∀ t t', (outcome a node t).1 = (outcome a node t').1

theorem IsSteady.pure (x : α) : IsSteady (Pure.pure x) := fun _ _ _ _ => rfl

theorem IsSteady.throw (failure : Failure) : IsSteady (MonadExcept.throw failure : Attempt α) :=
  fun _ _ _ _ => rfl

theorem IsSteady.bind {a : Attempt α} {f : α → Attempt β} (first : IsSteady a)
    (rest : ∀ x, IsSteady (f x)) : IsSteady (a >>= f) := by
  intro node steady t t'
  have same := first node steady t t'
  rw [outcome_bind, outcome_bind]
  cases ended : outcome a node t with
  | mk result between =>
    cases ended' : outcome a node t' with
    | mk result' between' =>
      rw [ended, ended'] at same
      obtain rfl : result = result' := same
      cases result with
      | ok x => exact rest x node steady between between'
      | error failure => rfl

theorem IsSteady.wrapping {a : Attempt α} (steady : IsSteady a) (wrap : Failure → Failure) :
    IsSteady (wrapping wrap a) := by
  intro node still t t'
  have same := steady node still t t'
  rw [outcome_wrapping, outcome_wrapping]
  cases ended : outcome a node t with
  | mk result between =>
    cases ended' : outcome a node t' with
    | mk result' between' =>
      rw [ended, ended'] at same
      obtain rfl : result = result' := same
      cases result with
      | ok x => rfl
      | error failure => rfl

theorem IsSteady.sessionAsk (q : Query) : IsSteady (liftM (Session.ask q)) := by
  intro node steady t t'
  rw [outcome_sessionAsk, outcome_sessionAsk, steady t.queries t'.queries q]

end Attempt

namespace Courier

/-- Whoever is asked for an estimate minds only what the node answers. The decision on the price is
not among them. -/
structure IsSteady (c : Courier) : Prop where
  nonces : ∀ owner pending, Attempt.IsSteady (c.nonces owner pending)
  quotes : Attempt.IsSteady c.quotes
  estimator : ∀ message, Attempt.IsSteady (c.estimator message)
  funds : ∀ covered, c.funds = some covered → ∀ payer data recipient quote,
    Attempt.IsSteady (covered payer data recipient quote)

/-- Each question is put to the node or has a fixed answer. -/
structure IsStock (c : Courier) : Prop where
  nonces : c.nonces = NonceSource.ofNode ∨ ∃ nonce, c.nonces = NonceSource.always nonce
  quotes : (∃ multiplier, c.quotes = QuoteSource.ofHead multiplier) ∨
    ∃ quote, c.quotes = QuoteSource.always quote
  decide : ∀ decide, c.decide = some decide → ∃ floor : FeeFloor, decide = floor.check
  estimator : c.estimator = GasEstimator.ofNode ∨ ∃ limit, c.estimator = GasEstimator.always limit
  funds : ∀ covered, c.funds = some covered → ∃ rules, covered = Funds.check rules

theorem IsStock.new (chainId : Word) : (Courier.new chainId).IsStock where
  nonces := .inl rfl
  quotes := .inl ⟨_, rfl⟩
  decide := by
    rintro decide same
    cases same
    exact ⟨_, rfl⟩
  estimator := .inl rfl
  funds := by
    rintro covered same
    cases same

theorem IsStock.ofSettings (chainId : Word) (s : Settings) :
    (Courier.ofSettings chainId s).IsStock where
  nonces := .inl rfl
  quotes := .inl ⟨_, rfl⟩
  decide := by
    rintro decide same
    cases same
    exact ⟨_, rfl⟩
  estimator := .inl rfl
  funds := by
    rintro covered same
    cases same
    exact ⟨_, rfl⟩

end Courier

/-! ## What is never missing -/

namespace Attempt

variable {α β : Type}

/-- However the attempt ends, it does not say that something is missing. -/
def NeverMissing (a : Attempt α) : Prop :=
  ∀ (node : Node) t what, (outcome a node t).1 ≠ .error (.missing what)

theorem NeverMissing.pure (x : α) : NeverMissing (Pure.pure x) := by
  intro node t what ended
  cases ended

theorem NeverMissing.throw {failure : Failure} (other : ∀ what, failure ≠ .missing what) :
    NeverMissing (MonadExcept.throw failure : Attempt α) := by
  intro node t what ended
  exact other what (Except.error.inj ended)

theorem NeverMissing.bind {a : Attempt α} {f : α → Attempt β} (first : NeverMissing a)
    (rest : ∀ x, NeverMissing (f x)) : NeverMissing (a >>= f) := by
  intro node t what
  have before := first node t what
  rw [outcome_bind]
  cases ended : outcome a node t with
  | mk result between =>
    rw [ended] at before
    cases result with
    | ok x => exact rest x node between what
    | error failure =>
      intro missing
      exact before (congrArg Except.error (Except.error.inj missing))

/-- What goes wrong with the step it happened in is not told as something missing. -/
theorem NeverMissing.wrapping {wrap : Failure → Failure}
    (other : ∀ failure what, wrap failure ≠ .missing what) (a : Attempt α) :
    NeverMissing (wrapping wrap a) := by
  intro node t what
  rw [outcome_wrapping]
  cases outcome a node t with
  | mk result between =>
    cases result with
    | ok x => simp
    | error failure =>
      intro missing
      exact other failure what (Except.error.inj missing)

theorem NeverMissing.sessionAsk (q : Query) : NeverMissing (liftM (Session.ask q)) := by
  intro node t what ended
  rw [outcome_sessionAsk] at ended
  cases ended

end Attempt

namespace Courier

end Courier

/-! ## The steps in common -/

/-- What is known of a call when its price is about to be decided on. -/
structure Prospect where
  nonce : UInt64
  quote : GasQuote
  gas : UInt64

namespace Prospect

def draft (p : Prospect) (chainId : Word) (sender : Address) (call : ContractCall) : Draft :=
  ⟨chainId, some sender, some call.recipient, call.toContract, call.data, call.value, some p.nonce,
    some p.quote, some p.gas, none⟩

def envelope (p : Prospect) (chainId : Word) (call : ContractCall) : Envelope where
  chainId
  nonce := p.nonce
  gas := p.gas
  recipient := some call.recipient
  value := call.value
  data := call.data
  fields := p.quote.fields
  signature := .empty
  recipient_isSome := fun _ => rfl

theorem assemble_draft (p : Prospect) (chainId : Word) (sender : Address) (call : ContractCall) :
    (p.draft chainId sender call).assemble = .ok (p.envelope chainId call) := by
  obtain ⟨nonce, quote, gas⟩ := p
  cases quote <;> rfl

end Prospect

namespace Courier

variable {c : Courier} {call : ContractCall} {sender : Address} {account : Account} {node : Node}
  {t t' : Trace}

/-- The look at the funds for a call, where somebody takes it. -/
def funded (c : Courier) (payer : Address) (call : ContractCall) (quote : GasQuote) :
    Attempt Unit :=
  match c.funds with
  | none => pure ()
  | some covered => covered payer call.data (some call.recipient) (some quote)

/-- The decision on a quote, where somebody makes one. -/
def decided (c : Courier) (quote : GasQuote) : Attempt Unit :=
  match c.decide with
  | none => pure ()
  | some decide => decide quote

/-- What an estimate reads off a draft. -/
def told (d : Draft) : Attempt (GasQuote × UInt64) := do
  if let some failure := d.failure then throw failure
  match d.quote, d.gasLimit with
  | some quote, some limit => return (quote, limit)
  | none, _ => throw (.missing .price)
  | some _, none => throw (.missing .gasLimit)

end Courier

end TxCourier
