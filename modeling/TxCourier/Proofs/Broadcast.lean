import TxCourier.Proofs.Clearance

/-! # What is sent

A delivery hands at most one transaction to the node, and only one that was cleared before. That the
node takes it is not asserted: the node may answer anything at all. -/
namespace TxCourier

open Attempt

namespace Courier

variable {terms : Terms} {node : Node} {account : Account} {call : ContractCall}
  {inspection : Option Inspection} {t : Trace}

/-- A draft in which something failed is not dispatched. -/
theorem outcome_dispatch_of_failed {d : Draft} {failure : Failure}
    (failed : d.failure = some failure) (sending : Bool) :
    (dispatch account d sending inspection).outcome node t = (.error failure, t) := by
  have kept : (d.setSender account.publicKey.address).failure = some failure := by
    rw [← failed]
    exact Draft.failure_update (by intro _; rfl) d
  have stops : (d.setSender account.publicKey.address).assemble = .error failure := by
    unfold Draft.assemble Draft.assembleAs
    rw [kept]
    rfl
  unfold dispatch
  rw [stops]
  rfl

/-- A delivery is a clearance, and then at most one submission. -/
theorem outcome_deliver (c : Courier) (account : Account) (call : ContractCall) (sending : Bool)
    (inspection : Option Inspection) (node : Node) (t : Trace) :
    (c.deliver account call sending inspection).outcome node t
      = outcome (c.cleared account call inspection >>= fun e =>
          if sending then Delivery.submit e >>= fun _ => pure e else pure e) node t := by
  have latched : (c.deliver account call sending inspection).outcome node t
      = outcome (Draft.attemptAll (.senderOf account.publicKey :: c.steps call true)
          (Draft.new c.chainId) >>= fun d => dispatch account d sending inspection) node t :=
    Draft.outcome_runAll_bind (fun d => dispatch account d sending inspection)
      (fun _ _ failed _ => outcome_dispatch_of_failed failed sending) _ rfl t
  have parts : (c.cleared account call inspection >>= fun e =>
        if sending then Delivery.submit e >>= fun _ => pure e else pure e)
      = Draft.attemptAll (.senderOf account.publicKey :: c.steps call true) (Draft.new c.chainId)
        >>= fun d => dispatch account d sending inspection := by
    simp only [cleared, dispatch, bind_assoc, pure_bind]
  rw [parts]
  exact latched

/-! ## Submission -/

/-- The end of a delivery by what the node answers to the transaction. -/
def verdict (e : Envelope) (answer : Except NodeError Hash) : Except Failure Envelope :=
  match Delivery.objection? e.hash answer with
  | some cause => .error (.rejected ⟨e, cause⟩)
  | none => .ok e

theorem eq_of_verdict {e e' : Envelope} {answer : Except NodeError Hash}
    (taken : verdict e answer = .ok e') : e' = e := by
  unfold verdict at taken
  split at taken
  · cases taken
  · exact (Except.ok.inj taken).symm

theorem outcome_submit (e : Envelope) :
    outcome (Delivery.submit e >>= fun _ => pure e) node t =
      (verdict e (node t.queries (.send e.wire)).result,
        t.after (.send e.wire) (node t.queries (.send e.wire)).delay) := by
  unfold Delivery.submit verdict
  rw [bind_assoc, outcome_bind, outcome_sessionAsk]
  dsimp only
  cases Delivery.objection? e.hash (node t.queries (.send e.wire)).result with
  | none => rfl
  | some cause => rfl

theorem sent_after_send (wire : Bytes) (delay : Nat) (t : Trace) :
    (t.after (.send wire) delay).sent = wire :: t.sent := rfl

/-! ## Delivery -/

/-- Without a clearance a delivery fails and sends nothing. -/
theorem deliver_of_uncleared
    (uncleared : ¬Nonempty (Clearance terms node account call inspection t.queries))
    (sending : Bool) :
    ∃ failure t', (terms.courier.deliver account call sending inspection).outcome node t
      = (.error failure, t') ∧ t'.sent = t.sent := by
  have quiet : ((terms.courier.cleared account call inspection).outcome node t).2.sent = t.sent :=
    quiet_cleared node t
  rw [outcome_deliver, outcome_bind]
  cases ended : (terms.courier.cleared account call inspection).outcome node t with
  | mk result between =>
    rw [ended] at quiet
    cases result with
    | error failure => exact ⟨failure, between, rfl, quiet⟩
    | ok e =>
      obtain ⟨p, -, -⟩ := reaches_cleared.mp ⟨between, ended, rfl⟩
      exact absurd ⟨p⟩ uncleared

theorem deliver_without_sending (p : Clearance terms node account call inspection t.queries) :
    ∃ t', (terms.courier.deliver account call false inspection).outcome node t
      = (.ok p.signed, t') ∧ t'.sent = t.sent := by
  have quiet : ((terms.courier.cleared account call inspection).outcome node t).2.sent = t.sent :=
    quiet_cleared node t
  obtain ⟨between, ended, -⟩ := reaches_cleared.mpr ⟨p, rfl, rfl⟩
  rw [ended] at quiet
  refine ⟨between, ?_, quiet⟩
  rw [outcome_deliver, outcome_bind, ended]
  rfl

/-- With a clearance a delivery sends its transaction behind all questions. -/
theorem deliver_with_sending (p : Clearance terms node account call inspection t.queries) :
    ∃ t', (terms.courier.deliver account call true inspection).outcome node t
        = (verdict p.signed (node p.queries (.send p.signed.wire)).result, t') ∧
      t'.queries = .send p.signed.wire :: p.queries ∧ t'.sent = p.signed.wire :: t.sent := by
  have quiet : ((terms.courier.cleared account call inspection).outcome node t).2.sent = t.sent :=
    quiet_cleared node t
  obtain ⟨between, ended, queries⟩ := reaches_cleared.mpr ⟨p, rfl, rfl⟩
  rw [ended] at quiet
  let reply := node p.queries (.send p.signed.wire)
  refine ⟨between.after (.send p.signed.wire) reply.delay, ?_, ?_, ?_⟩
  · rw [outcome_deliver, outcome_bind, ended]
    dsimp only
    rw [if_pos rfl, outcome_submit, queries]
  · rw [Trace.queries_after, queries]
  · rw [sent_after_send, quiet]

/-- The couriers that can be had, and their terms. -/
inductive OnTerms : Courier → Terms → Prop
  | new (chainId : Word) : OnTerms (Courier.new chainId) (Terms.default chainId)
  | ofSettings (chainId : Word) (s : Settings) :
      OnTerms (Courier.ofSettings chainId s) (Terms.ofSettings chainId s)

theorem OnTerms.courier_eq {c : Courier} (standard : c.OnTerms terms) : terms.courier = c := by
  cases standard with
  | new chainId => exact Terms.courier_default chainId
  | ofSettings chainId s => exact Terms.courier_ofSettings chainId s

/-- At most one transaction is sent, and only one that is wanted to be sent and for which there is a
clearance: its fields are those of the call, of the quote and of the node's answers, and nothing was
asked in between. Where there is a clearance the transaction is sent and the node's answer decides
how the delivery ends, and no other transaction is ever returned. -/
theorem deliver_sends_cleared {c : Courier} {terms : Terms} (standard : c.OnTerms terms)
    (account : Account) (call : ContractCall) (sending : Bool) (inspection : Option Inspection)
    (node : Node) (t : Trace) :
    let ended := (c.deliver account call sending inspection).outcome node t
    (ended.2.sent = t.sent ∨
      ∃ p : Clearance terms node account call inspection t.queries,
        sending = true ∧ ended.2.sent = p.signed.wire :: t.sent ∧
        ended.2.queries = .send p.signed.wire :: p.queries ∧
        p.signed.chainId = terms.chainId ∧ p.signed.recipient = some call.recipient ∧
        p.signed.value = call.value ∧ p.signed.data = call.data ∧ p.signed.nonce = p.nonce ∧
        p.signed.gas = p.gas ∧ p.signed.fields = p.quote.fields) ∧
    (∀ p : Clearance terms node account call inspection t.queries, sending = true →
      ended.2.sent = p.signed.wire :: t.sent ∧
        ended.1 = verdict p.signed (node p.queries (.send p.signed.wire)).result) ∧
    (∀ e, ended.1 = .ok e →
      ∃ p : Clearance terms node account call inspection t.queries, e = p.signed) := by
  obtain rfl := standard.courier_eq
  intro ended
  by_cases cleared : Nonempty (Clearance terms node account call inspection t.queries)
  · obtain ⟨p⟩ := cleared
    cases sending with
    | false =>
      obtain ⟨t', run, quiet⟩ := deliver_without_sending p
      have run : ended = (.ok p.signed, t') := run
      rw [run]
      refine ⟨.inl quiet, fun _ wanted => absurd wanted (by decide), fun e made => ⟨p, ?_⟩⟩
      exact (Except.ok.inj made).symm
    | true =>
      obtain ⟨t', run, queries, sent⟩ := deliver_with_sending p
      have run : ended = (verdict p.signed (node p.queries (.send p.signed.wire)).result, t') := run
      refine ⟨.inr ⟨p, rfl, ?_, ?_, p.orders⟩, fun q _ => ?_, fun e made => ⟨p, ?_⟩⟩
      · rw [run, sent]
      · rw [run, queries]
      · obtain ⟨t'', run', -, sent'⟩ := deliver_with_sending q
        have run' : ended = (verdict q.signed (node q.queries (.send q.signed.wire)).result, t'') :=
          run'
        rw [run']
        exact ⟨sent', rfl⟩
      · rw [run] at made
        exact eq_of_verdict made
  · obtain ⟨failure, t', run, quiet⟩ := deliver_of_uncleared cleared sending
    have run : ended = (.error failure, t') := run
    rw [run]
    refine ⟨.inl quiet, fun p => absurd ⟨p⟩ cleared, fun e made => ?_⟩
    cases made

/-- A node that answers what is asked before a delivery, and always the same. -/
def steadyNode : Node :=
  Node.steady fun
    | .latestHeader => .ok ⟨0, FixedBytes.replicate 32 0, none⟩
    | .gasPrice => .ok (7 : Word)
    | .pendingCode _ => .ok [0xfe]
    | .pendingNonce _ => .ok (3 : UInt64)
    | .estimate _ => .ok (50000 : UInt64)
    | _ => .error (.transport "silent")

def sampleCall : ContractCall := ⟨Address.zero, [0x01], 0, true⟩

def steadyClearance :
    Clearance (Terms.default 1) steadyNode Envelope.fixedSigner sampleCall none [] where
  nonce := 3
  quote := .single 7
  gas := 50000
  head := ⟨0, FixedBytes.replicate 32 0, none⟩
  quoted := _
  funded := _
  looked := _
  counted := rfl
  priced := .single rfl rfl rfl
  estimated := rfl
  covered := .unasked rfl
  seen := .seen (.inl rfl) rfl (fun _ => List.cons_ne_nil _ _) (fun _ _ => List.cons_ne_nil _ _)
  latest := rfl
  accepted := rfl
  signed := _
  signs := rfl
  passed := fun _ none => nomatch none

/-- The courier with nothing configured does send. -/
theorem deliver_sends_cleared_steadyNode :
    (Courier.new 1).OnTerms (Terms.default 1) ∧
      (((Courier.new 1).deliver Envelope.fixedSigner sampleCall true none).outcome steadyNode
        Trace.start).2.sent = [steadyClearance.signed.wire] :=
  ⟨.new 1, (deliver_sends_cleared (.new 1) Envelope.fixedSigner sampleCall true none steadyNode
    Trace.start).2.1 steadyClearance rfl |>.1⟩

end Courier

end TxCourier
