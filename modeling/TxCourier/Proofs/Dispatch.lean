import TxCourier.Proofs.Broadcast
import TxCourier.Proofs.SignedContent
import TxCourier.Proofs.Unsigned
import TxCourier.Proofs.Waiting

/-! # What an account has to do with what is sent

Whatever is sent is the transaction of a draft with what the account made of its digest, and it is
sent wherever that is wanted. Nobody asks whether the account signed: an account that only looks at
digests has its unsigned transactions sent. -/
namespace TxCourier

open Attempt

/-- An answer that leaves a signature behind on an envelope of some type. -/
def SignOutcome.Signs (t : TxType) : SignOutcome → Prop
  | .signature sig => ¬(sig.r = 0 ∧ sig.s = 0) ∧ (t = .legacy → ¬(sig.r = 1 ∧ sig.s = 1))
  | .noSignature => False

namespace Ready

variable {account : Account} {d : Draft} {inspection : Option Inspection}

theorem isUnsigned_of_noSignature (p : Ready account d inspection)
    (silent : p.outcome = .noSignature) : p.envelope.isUnsigned = true := by
  rw [envelope, silent]
  exact Envelope.isUnsigned_noSignature p.drafted

theorem isUnsigned_of_signs (p : Ready account d inspection)
    (signs : p.outcome.Signs p.drafted.type) : p.envelope.isUnsigned = false := by
  unfold envelope
  cases outcome : p.outcome with
  | noSignature =>
    rw [outcome] at signs
    exact signs.elim
  | signature sig =>
    rw [outcome] at signs
    exact Envelope.isUnsigned_signature signs.1 signs.2

/-- The same bytes are not the wire form of an unsigned envelope besides. -/
theorem isUnsigned_of_wire (p : Ready account d inspection)
    (sized : p.envelope.wire.length < UInt64.size) {u : Envelope}
    (same : u.wire = p.envelope.wire) : u.isUnsigned = p.envelope.isUnsigned := by
  obtain ⟨type, signature⟩ := Envelope.signature_of_wire sized same.symm
  exact (Envelope.isUnsigned_congr type signature).symm

end Ready

namespace Courier

variable {c : Courier} {account : Account} {call : ContractCall} {d : Draft} {sending : Bool}
  {inspection : Option Inspection} {node : Node} {t : Trace}

/-! ## From a draft on -/

theorem outcome_dispatch :
    (dispatch account d sending inspection).outcome node t
      = outcome (readied account d inspection >>= fun e =>
          if sending then Delivery.submit e >>= fun _ => pure e else pure e) node t := by
  simp only [dispatch, readied, bind_assoc, pure_bind]

/-- A transaction that is ready is sent wherever that is wanted. -/
theorem sent_dispatch_of_ready (p : Ready account d inspection) :
    ((dispatch account d sending inspection).outcome node t).2.sent
      = if sending then p.envelope.wire :: t.sent else t.sent := by
  have quiet : ((readied account d inspection).outcome node t).2.sent = t.sent :=
    quiet_readied node t
  obtain ⟨between, ended, -⟩ := reaches_readied.mpr ⟨p, rfl, rfl⟩
  rw [ended] at quiet
  rw [outcome_dispatch, outcome_bind, ended]
  cases sending with
  | false => exact quiet
  | true =>
    dsimp only
    rw [if_pos rfl, outcome_submit, sent_after_send, quiet]
    rfl

theorem sent_dispatch_of_unready (unready : ¬Nonempty (Ready account d inspection)) :
    ((dispatch account d sending inspection).outcome node t).2.sent = t.sent := by
  have quiet : ((readied account d inspection).outcome node t).2.sent = t.sent :=
    quiet_readied node t
  rw [outcome_dispatch, outcome_bind]
  cases ended : (readied account d inspection).outcome node t with
  | mk result between =>
    rw [ended] at quiet
    cases result with
    | error failure => exact quiet
    | ok e =>
      obtain ⟨p, -, -⟩ := reaches_readied.mp ⟨between, ended, rfl⟩
      exact absurd ⟨p⟩ unready

/-! ## From a call on -/

/-- A delivery is a draft that is dispatched. -/
theorem outcome_deliver_eq_dispatch :
    (c.deliver account call sending inspection).outcome node t
      = (dispatch account (((c.draft (.senderOf account.publicKey) call true).run node).run t).1
          sending inspection).outcome node
          (((c.draft (.senderOf account.publicKey) call true).run node).run t).2 := by
  unfold deliver
  rw [outcome_bind, outcome_lift]

theorem sent_draft (asks : c.AsksOnly) :
    (((c.draft (.senderOf account.publicKey) call true).run node).run t).2.sent = t.sent :=
  Draft.sent_runAll (quiet_drafting asks) _ t

/-- Nothing more is sent while the transaction is waited for. -/
theorem sent_deliverAndAwait (confirmations : UInt64) (cancellation : Cancellation) (fuel : Nat) :
    ((c.deliverAndAwait account call inspection confirmations cancellation fuel).outcome node
        t).2.sent
      = ((c.deliver account call true inspection).outcome node t).2.sent := by
  unfold deliverAndAwait
  rw [outcome_bind]
  cases ended : (c.deliver account call true inspection).outcome node t with
  | mk result between =>
    cases result with
    | error failure => rfl
    | ok e =>
      have waits : Quiet (Delivery.await c.polling e.hash confirmations cancellation fuel) :=
        Delivery.quiet_await _ _ _ _ _
      exact Quiet.bind waits (fun outcome => Quiet.pure (e, outcome)) node between

/-! ## All runs -/

/-- A run that comes to a draft and dispatches it: the trace before, the draft, whether it is to be
sent, and the trace behind. -/
inductive Run (account : Account) (inspection : Option Inspection) (node : Node) :
    Trace → Draft → Bool → Trace → Prop
  | dispatch (d : Draft) (sending : Bool) (t : Trace) :
      Run account inspection node t d sending
        ((dispatch account d sending inspection).outcome node t).2
  | deliver {c : Courier} (asks : c.AsksOnly) (call : ContractCall) (sending : Bool) (t : Trace) :
      Run account inspection node t
        (((c.draft (.senderOf account.publicKey) call true).run node).run t).1 sending
        ((c.deliver account call sending inspection).outcome node t).2
  | deliverAndAwait {c : Courier} (asks : c.AsksOnly) (call : ContractCall) (t : Trace)
      (confirmations : UInt64) (cancellation : Cancellation) (fuel : Nat) :
      Run account inspection node t
        (((c.draft (.senderOf account.publicKey) call true).run node).run t).1 true
        ((c.deliverAndAwait account call inspection confirmations cancellation fuel).outcome node
          t).2

namespace Run

variable {before after : Trace}

/-- What a run sends is what is sent from its draft on. -/
theorem exists_dispatch (run : Run account inspection node before d sending after) :
    ∃ t, t.sent = before.sent ∧
      after.sent = ((Courier.dispatch account d sending inspection).outcome node t).2.sent := by
  cases run with
  | dispatch => exact ⟨before, rfl, rfl⟩
  | deliver asks call =>
    rw [outcome_deliver_eq_dispatch]
    exact ⟨_, sent_draft asks, rfl⟩
  | deliverAndAwait asks call t confirmations cancellation fuel =>
    rw [sent_deliverAndAwait, outcome_deliver_eq_dispatch]
    exact ⟨_, sent_draft asks, rfl⟩

theorem sent_of_ready (run : Run account inspection node before d sending after)
    (p : Ready account d inspection) :
    after.sent = if sending then p.envelope.wire :: before.sent else before.sent := by
  obtain ⟨t, same, sent⟩ := run.exists_dispatch
  rw [sent, sent_dispatch_of_ready p, same]

theorem sent_of_unready (run : Run account inspection node before d sending after)
    (unready : ¬Nonempty (Ready account d inspection)) : after.sent = before.sent := by
  obtain ⟨t, same, sent⟩ := run.exists_dispatch
  rw [sent, sent_dispatch_of_unready unready, same]

end Run

end Courier

/-- An account that holds a key answers with a signature, which is not of two zeros. -/
theorem Account.holding_signs {key : SecretKey} {digest : Hash} {outcome : SignOutcome}
    (answered : (Account.holding key).sign digest = .ok outcome) :
    ∃ sig, outcome = .signature sig ∧ ¬(sig.r = 0 ∧ sig.s = 0) := by
  unfold holding at answered
  dsimp only at answered
  split at answered
  · rename_i sig signed
    cases answered
    exact ⟨sig, rfl, fun zero => (Ecdsa.nonzero_of_sign? signed).1 zero.1⟩
  · cases answered

namespace Courier

/-- A run sends one transaction at most: what the account made of the drafted one. It is sent
wherever sending is wanted, so that it is signed exactly where the account signed it. An account
that holds a key always gives a signature, and one that only looks at digests never does. -/
theorem run_sends_what_account_made {account : Account} {inspection : Option Inspection}
    {node : Node} {before after : Trace} {d : Draft} {sending : Bool}
    (run : Run account inspection node before d sending after) :
    (after.sent = before.sent ∨ ∃ p : Ready account d inspection,
      sending = true ∧ after.sent = p.envelope.wire :: before.sent) ∧
    ∀ p : Ready account d inspection,
      (sending = false → after.sent = before.sent) ∧
      (sending = true → after.sent = p.envelope.wire :: before.sent) ∧
      (p.outcome = .noSignature → p.envelope.isUnsigned = true) ∧
      (p.outcome.Signs p.drafted.type → p.envelope.wire.length < UInt64.size →
        ∀ u : Envelope, u.wire = p.envelope.wire → u.isUnsigned = false) ∧
      (∀ key, account = .holding key →
        ∃ sig, p.outcome = .signature sig ∧ ¬(sig.r = 0 ∧ sig.s = 0)) ∧
      ∀ key, account = .observing key → p.outcome = .noSignature := by
  refine ⟨?_, fun p => ⟨?_, ?_, p.isUnsigned_of_noSignature, ?_, ?_, ?_⟩⟩
  · by_cases ready : Nonempty (Ready account d inspection)
    · obtain ⟨p⟩ := ready
      have sent := run.sent_of_ready p
      cases sending with
      | false => exact .inl sent
      | true => exact .inr ⟨p, rfl, sent⟩
    · exact .inl (run.sent_of_unready ready)
  · rintro rfl
    exact run.sent_of_ready p
  · rintro rfl
    exact run.sent_of_ready p
  · intro signs sized u same
    rw [p.isUnsigned_of_wire sized same, p.isUnsigned_of_signs signs]
  · rintro key rfl
    exact Account.holding_signs p.answered
  · rintro key rfl
    exact (Except.ok.inj p.answered).symm

/-- The answers of the steady node vet the sample call for anyone. -/
theorem exists_vetting_steadyNode (sender : Address) :
    ∃ v : Vetting (Terms.default 1) steadyNode sender sampleCall [], v.quote = .single 7 :=
  ⟨{  nonce := 3
      quote := .single 7
      gas := 50000
      head := ⟨0, FixedBytes.replicate 32 0, none⟩
      quoted := _
      funded := _
      looked := _
      counted := rfl
      priced := .single rfl rfl rfl
      estimated := rfl
      covered := .unasked rfl
      seen := .seen (.inl rfl) rfl (fun _ => List.cons_ne_nil _ _) (fun _ _ => List.cons_ne_nil _ _)
      latest := rfl
      accepted := rfl }, rfl⟩

/-- A call is sent with the marker in the name of an account that only looks at digests. -/
theorem deliver_sends_unsigned_steadyNode :
    ∃ e : Envelope, e.type = .legacy ∧ e.signature = ⟨37, 1, 1⟩ ∧ e.isUnsigned = true ∧
      (((Courier.new 1).deliver (Account.observing ⟨0, 0⟩) sampleCall true none).outcome steadyNode
        Trace.start).2.sent = [e.wire] := by
  obtain ⟨v, quote⟩ := exists_vetting_steadyNode (Account.observing ⟨0, 0⟩).address
  let p : Clearance (Terms.default 1) steadyNode (Account.observing ⟨0, 0⟩) sampleCall none
      Trace.start.queries :=
    { v with
      signed := v.envelope.applySignature .noSignature
      signs := rfl
      passed := fun _ none => by cases none }
  obtain ⟨t', run, -, sent⟩ := deliver_with_sending p
  have run : ((Courier.new 1).deliver (Account.observing ⟨0, 0⟩) sampleCall true none).outcome
      steadyNode Trace.start
        = (verdict p.signed (steadyNode p.queries (.send p.signed.wire)).result, t') := run
  have legacy : v.envelope.type = .legacy := by
    change v.quote.fields.type = .legacy
    rw [quote]
    rfl
  have marker := Envelope.signature_noSignature_of_legacy legacy (by decide : 1 < UInt64.size)
  refine ⟨p.signed, legacy, marker, Envelope.isUnsigned_noSignature _, ?_⟩
  rw [run]
  exact sent

def sampleDraft : Draft := (Terms.default 1).draft Address.zero sampleCall 3 (.single 7) 50000

def sampleReady : Ready Envelope.fixedSigner sampleDraft none where
  drafted := _
  outcome := .signature ⟨1, 2, false⟩
  assembled := rfl
  answered := rfl
  passed := fun _ none => by cases none

theorem run_sends_what_account_made_sampleDraft :
    Run Envelope.fixedSigner none steadyNode Trace.start sampleDraft true
      ((dispatch Envelope.fixedSigner sampleDraft true none).outcome steadyNode Trace.start).2 ∧
    ((dispatch Envelope.fixedSigner sampleDraft true none).outcome steadyNode Trace.start).2.sent
      = [sampleReady.envelope.wire] ∧
    ∀ u : Envelope, u.wire = sampleReady.envelope.wire → u.isUnsigned = false := by
  have run : Run Envelope.fixedSigner none steadyNode Trace.start sampleDraft true
      ((dispatch Envelope.fixedSigner sampleDraft true none).outcome steadyNode Trace.start).2 :=
    .dispatch sampleDraft true Trace.start
  obtain ⟨-, sends, -, signed, -⟩ := (run_sends_what_account_made run).2 sampleReady
  refine ⟨run, sends rfl, signed ⟨by decide, fun _ => by decide⟩ ?_⟩
  decide +kernel

end Courier

end TxCourier
