import TxCourier.Proofs.Asking
import TxCourier.Proofs.SignEnvelope
import TxCourier.Proofs.Vetting

/-! # Clearance

A call is cleared when it was vetted, its transaction was signed and nobody who looked at it held it
back. Up to there nothing is handed to the node. -/
namespace TxCourier

open Attempt

/-- The transaction of a draft with what an account made of its digest, which passed the last look
where somebody takes it. -/
structure Ready (account : Account) (d : Draft) (inspection : Option Inspection) where
  drafted : Envelope
  outcome : SignOutcome
  assembled : (d.setSender account.publicKey.address).assemble = .ok drafted
  answered : account.sign drafted.signingDigest = .ok outcome
  passed : ∀ look, inspection = some look → look (drafted.applySignature outcome) = .ok ()

namespace Ready

variable {account : Account} {d : Draft} {inspection : Option Inspection}

def envelope (p : Ready account d inspection) : Envelope := p.drafted.applySignature p.outcome

theorem signs (p : Ready account d inspection) :
    account.signEnvelope p.drafted = .ok p.envelope :=
  Account.signEnvelope_eq_ok.mpr ⟨p.outcome, p.answered, rfl⟩

end Ready

/-- A vetted call whose transaction was signed, and passed the last look where somebody takes it. -/
structure Clearance (terms : Terms) (node : Node) (account : Account) (call : ContractCall)
    (inspection : Option Inspection) (asked : List Query)
    extends Vetting terms node account.address call asked where
  signed : Envelope
  signs : account.signEnvelope toVetting.envelope = .ok signed
  passed : ∀ look, inspection = some look → look signed = .ok ()

theorem Clearance.orders {terms : Terms} {node : Node} {account : Account} {call : ContractCall}
    {inspection : Option Inspection} {asked : List Query}
    (p : Clearance terms node account call inspection asked) :
    p.signed.chainId = terms.chainId ∧ p.signed.recipient = some call.recipient ∧
      p.signed.value = call.value ∧ p.signed.data = call.data ∧ p.signed.nonce = p.nonce ∧
      p.signed.gas = p.gas ∧ p.signed.fields = p.quote.fields := by
  obtain ⟨outcome, -, same⟩ := Account.signEnvelope_eq_ok.mp p.signs
  rw [same]
  exact ⟨rfl, rfl, rfl, rfl, rfl, rfl, rfl⟩

namespace Courier

variable {terms : Terms} {node : Node} {account : Account} {call : ContractCall} {d : Draft}
  {inspection : Option Inspection} {t t' : Trace} {asked : List Query}

/-- The signed transaction of a draft, before it is decided whether it is sent. -/
def readied (account : Account) (d : Draft) (inspection : Option Inspection) :
    Attempt Envelope := do
  let e ← Attempt.ofExcept (d.setSender account.publicKey.address).assemble
  let e ← signed account e
  inspect inspection e
  return e

/-- The signed transaction of a call, before it is decided whether it is sent. -/
def cleared (c : Courier) (account : Account) (call : ContractCall)
    (inspection : Option Inspection) : Attempt Envelope := do
  let d ← Draft.attemptAll (.senderOf account.publicKey :: c.steps call true) (Draft.new c.chainId)
  let e ← Attempt.ofExcept (d.setSender account.publicKey.address).assemble
  let e ← signed account e
  inspect inspection e
  return e

/-! ## Nothing is sent before -/

theorem closed_quiet : Closed Quiet where
  pure := Quiet.pure
  throw _ := Quiet.throw _
  bind := Quiet.bind
  sessionAsk := Quiet.sessionAsk

theorem quiet_signed (e : Envelope) : Quiet (signed account e) := by
  refine Quiet.bind (Quiet.signed _) fun _ => ?_
  cases account.signEnvelope e with
  | ok after => exact Quiet.pure after
  | error failure => exact Quiet.throw _

theorem quiet_inspect (e : Envelope) : Quiet (inspect inspection e) := by
  cases inspection with
  | none => exact Quiet.pure ()
  | some look =>
    refine Quiet.bind (Quiet.inspected e) fun _ => ?_
    cases look e with
    | ok _ => exact Quiet.pure ()
    | error reason => exact Quiet.throw _

/-- Whoever the courier asks may ask the node in turn, but hands nothing to it. -/
structure AsksOnly (c : Courier) : Prop where
  quotes : Quiet c.quotes
  decide : ∀ decide, c.decide = some decide → ∀ quote, Quiet (decide quote)
  estimator : ∀ message, Quiet (c.estimator message)
  nonces : ∀ owner pending, Quiet (c.nonces owner pending)
  funds : ∀ check, c.funds = some check → ∀ sender data recipient quote,
    Quiet (check sender data recipient quote)

theorem asksOnly_courier (terms : Terms) : terms.courier.AsksOnly where
  quotes := closed_quiet.ofHead terms.multiplier
  decide := by
    rintro decide same quote
    cases same
    exact closed_quiet.floorCheck terms.floor quote
  estimator := closed_quiet.estimate
  nonces := closed_quiet.nonceOfNode
  funds := by
    intro check ruled
    obtain ⟨r, -, rfl⟩ : ∃ r, terms.rules = some r ∧ Funds.check r = check := by
      simpa [Terms.courier] using ruled
    exact closed_quiet.fundsCheck r

theorem quiet_check {c : Courier} (asks : c.AsksOnly) (deciding : Bool) (d : Draft) :
    Quiet (Draft.Step.attempt d (.check c.strict (if deciding then c.decide else none))) := by
  refine Quiet.bind (closed_quiet.checkRecipient c.strict d) fun _ => ?_
  cases chosen : (if deciding then c.decide else none) with
  | none => exact Quiet.pure d
  | some decide =>
    have present : c.decide = some decide := by
      cases deciding with
      | true => exact chosen
      | false => cases chosen
    have decides : Quiet (d.checkQuote decide) :=
      Quiet.bind (Quiet.ofExcept _) fun quote => asks.decide decide present quote
    exact Quiet.bind decides fun _ => Quiet.pure d

theorem quiet_steps {c : Courier} (asks : c.AsksOnly) {call : ContractCall} {deciding : Bool}
    (step : Draft.Step) (member : step ∈ c.steps call deciding) (d : Draft) :
    Quiet (step.attempt d) := by
  simp only [Courier.steps, List.cons_append, List.nil_append, List.mem_cons, List.mem_append,
    List.mem_map, List.not_mem_nil, or_false, Option.mem_toList] at member
  rcases member with rfl | rfl | rfl | rfl | rfl | rfl | ⟨check, ruled, rfl⟩ | rfl
  · exact Quiet.pure _
  · exact Quiet.pure _
  · exact Quiet.pure _
  · refine Quiet.bind (Quiet.ofExcept _) fun owner => ?_
    exact Quiet.bind (Quiet.wrapping (asks.nonces owner true) _) fun n => Quiet.pure _
  · exact Quiet.bind asks.quotes fun q => Quiet.pure _
  · refine Quiet.bind (Quiet.ofExcept _) fun _ => ?_
    exact Quiet.bind (Quiet.wrapping (asks.estimator _) _) fun limit => Quiet.pure _
  · refine Quiet.bind (Quiet.ofExcept _) fun payer => ?_
    exact Quiet.bind (asks.funds check ruled payer _ _ _) fun _ => Quiet.pure d
  · exact quiet_check asks deciding d

theorem quiet_drafting {c : Courier} (asks : c.AsksOnly) {key : PublicKey} {call : ContractCall}
    {deciding : Bool} : ∀ step ∈ .senderOf key :: c.steps call deciding, ∀ d,
      Quiet (step.attempt d) := by
  intro step member d
  rcases List.mem_cons.mp member with rfl | member
  · exact Quiet.pure _
  · exact quiet_steps asks step member d

theorem quiet_readied : Quiet (readied account d inspection) := by
  refine Quiet.bind (Quiet.ofExcept _) fun e => ?_
  refine Quiet.bind (quiet_signed e) fun e => ?_
  exact Quiet.bind (quiet_inspect e) fun _ => Quiet.pure e

theorem quiet_cleared : Quiet (terms.courier.cleared account call inspection) :=
  Quiet.bind (Draft.quiet_attemptAll (quiet_drafting (asksOnly_courier terms)) _) fun _ =>
    quiet_readied

/-! ## Clearance -/

theorem outcome_signed_ok {e after : Envelope} :
    (signed account e).outcome node t = (.ok after, t') ↔
      account.signEnvelope e = .ok after ∧ t' = t.record (.signed e.signingDigest) := by
  unfold signed
  rw [outcome_bind, outcome_record]
  cases made : account.signEnvelope e with
  | ok got => simp [eq_comm]
  | error failure => simp

theorem reaches_inspect {e : Envelope} :
    Reaches (inspect inspection e) node t () asked ↔
      (∀ look, inspection = some look → look e = .ok ()) ∧ asked = t.queries := by
  cases inspection with
  | none =>
    constructor
    · rintro ⟨t', ended, rfl⟩
      cases ended
      exact ⟨fun _ none => (by cases none), rfl⟩
    · rintro ⟨-, rfl⟩
      exact Reaches.pure () rfl
  | some look =>
    unfold inspect Reaches
    simp only [Option.some.injEq, forall_eq']
    rw [outcome_bind, outcome_record]
    cases seen : look e with
    | ok got =>
      constructor
      · rintro ⟨t', ended, rfl⟩
        cases ended
        exact ⟨rfl, rfl⟩
      · rintro ⟨-, rfl⟩
        exact ⟨_, rfl, rfl⟩
    | error reason =>
      constructor
      · rintro ⟨t', ended, -⟩
        cases ended
      · rintro ⟨passed, -⟩
        cases passed

/-- A draft is readied exactly where its transaction is ready, and the node is asked nothing. -/
theorem reaches_readied {e : Envelope} :
    Reaches (readied account d inspection) node t e asked ↔
      ∃ p : Ready account d inspection, e = p.envelope ∧ asked = t.queries := by
  constructor
  · rintro ⟨t', ended, rfl⟩
    obtain ⟨drafted, _, takes, rest⟩ := outcome_bind_ok.mp ended
    cases assembled : (d.setSender account.publicKey.address).assemble with
    | error failure =>
      rw [assembled] at takes
      cases takes
    | ok made =>
      rw [assembled] at takes
      cases takes
      obtain ⟨signedOne, _, signs, rest⟩ := outcome_bind_ok.mp rest
      obtain ⟨stored, rfl⟩ := outcome_signed_ok.mp signs
      obtain ⟨outcome, answered, rfl⟩ := Account.signEnvelope_eq_ok.mp stored
      obtain ⟨⟨⟩, _, shows, rest⟩ := outcome_bind_ok.mp rest
      obtain ⟨passed, same⟩ := reaches_inspect.mp ⟨_, shows, rfl⟩
      cases rest
      exact ⟨⟨drafted, outcome, assembled, answered, passed⟩, rfl, same⟩
  · rintro ⟨p, rfl, rfl⟩
    unfold readied
    rw [p.assembled]
    refine Reaches.bind (Reaches.pure p.drafted rfl) fun t₁ same₁ => ?_
    have signs : Reaches (signed account p.drafted) node t₁ p.envelope t.queries :=
      ⟨_, outcome_signed_ok.mpr ⟨p.signs, rfl⟩, same₁⟩
    refine Reaches.bind signs fun t₂ same₂ => ?_
    refine Reaches.bind (reaches_inspect.mpr ⟨p.passed, same₂.symm⟩) fun t₃ same₃ => ?_
    exact Reaches.pure p.envelope same₃

/-- A transaction is cleared exactly where there is a clearance for it. -/
theorem reaches_cleared {e : Envelope} :
    Reaches (terms.courier.cleared account call inspection) node t e asked ↔
      ∃ p : Clearance terms node account call inspection t.queries,
        e = p.signed ∧ asked = p.queries := by
  constructor
  · rintro ⟨t', ended, rfl⟩
    obtain ⟨d, vetted, takes, rest⟩ := outcome_bind_ok.mp ended
    obtain ⟨v, rfl, queries⟩ := reaches_attemptAll.mp ⟨_, takes, rfl⟩
    obtain ⟨p, rfl, same⟩ := reaches_readied.mp ⟨_, rest, rfl⟩
    have drafted : p.drafted = v.envelope :=
      Except.ok.inj (p.assembled.symm.trans v.assemble_draft)
    have made : account.signEnvelope v.envelope = .ok p.envelope := drafted ▸ p.signs
    exact ⟨⟨v, p.envelope, made, p.passed⟩, rfl, same.trans queries⟩
  · -- The clock is not known between two stages, but only the questions matter to the next one.
    rintro ⟨p, rfl, rfl⟩
    have vetted : Reaches (Draft.attemptAll (.senderOf account.publicKey
        :: terms.courier.steps call true) (Draft.new terms.chainId)) node t p.draft p.queries :=
      reaches_attemptAll.mpr ⟨p.toVetting, rfl, rfl⟩
    refine Reaches.bind vetted fun t' same => ?_
    obtain ⟨outcome, answered, made⟩ := Account.signEnvelope_eq_ok.mp p.signs
    have passed := p.passed
    rw [made] at passed ⊢
    exact reaches_readied.mpr
      ⟨⟨p.envelope, outcome, p.assemble_draft, answered, passed⟩, rfl, same.symm⟩

end Courier

end TxCourier
