import TxCourier.Proofs.DraftSettings

/-! # What is built of a run of steps

Either every step is taken, and the transaction is that of what was set; or there is a first step
that fails, and then the draft stays as it was before that step, with its failure. Sources and
checks are arbitrary: how often they ask the node, and what they make of it, is not asserted. -/
namespace TxCourier

namespace Draft

open Attempt

/-! ## One step -/

/-- What a step sets that asks nobody. -/
def Step.given? : Step → Option Setting
  | sender a => some ⟨.sender, a⟩
  | senderOf key => some ⟨.sender, key.address⟩
  | recipient whom mustBeContract => some ⟨.recipient, (whom, mustBeContract)⟩
  | data b => some ⟨.data, b⟩
  | value v => some ⟨.value, v⟩
  | nonce n => some ⟨.nonce, n⟩
  | quote q => some ⟨.quote, q⟩
  | gasLimit limit => some ⟨.gasLimit, limit⟩
  | nonceFrom _ | quoteFrom _ | gasLimitFrom _ | funds _ | check .. => none

/-- What a step sets when it is taken, and the trace behind it. A check sets nothing. -/
inductive Step.Sets (node : Node) (d : Draft) (t : Trace) :
    Step → Option Setting → Trace → Prop
  | given {step : Step} {s : Setting} (plain : step.given? = some s) : Sets node d t step (some s) t
  | nonce {source : NonceSource} {owner : Address} {n : UInt64} {t' : Trace}
      (owned : d.sender = some owner) (told : (source owner true).outcome node t = (.ok n, t')) :
      Sets node d t (.nonceFrom source) (some ⟨.nonce, n⟩) t'
  | quote {source : QuoteSource} {q : GasQuote} {t' : Trace}
      (told : source.outcome node t = (.ok q, t')) :
      Sets node d t (.quoteFrom source) (some ⟨.quote, q⟩) t'
  | gasLimit {estimator : GasEstimator} {n limit : UInt64} {t' : Trace}
      (ready : d.requireNonce = .ok n)
      (told : (estimator d.message).outcome node t = (.ok limit, t')) :
      Sets node d t (.gasLimitFrom estimator) (some ⟨.gasLimit, limit⟩) t'
  | funds {covered : FundsCheck} {payer : Address} {t' : Trace} (owned : d.sender = some payer)
      (passed : (covered payer d.data d.recipient d.quote).outcome node t = (.ok (), t')) :
      Sets node d t (.funds covered) none t'
  | check {strict : Bool} {decide : Option QuoteCheck} {d' : Draft} {t' : Trace}
      (passed : (Step.attempt d (.check strict decide)).outcome node t = (.ok d', t')) :
      Sets node d t (.check strict decide) none t'

section OneStep

variable {node : Node} {chainId : Word} {before : List Setting} {t t' : Trace} {d : Draft}

theorem outcome_ofExcept_ok {α : Type} {e : Except Failure α} {x : α} :
    (ofExcept e).outcome node t = (.ok x, t') ↔ e = .ok x ∧ t' = t := by
  change (e, t) = (.ok x, t') ↔ _
  simp [eq_comm]

theorem requireSender_eq_ok {owner : Address} :
    d.requireSender = .ok owner ↔ d.sender = some owner := by
  unfold requireSender
  cases d.sender <;> simp [orMissing]

/-- A step that asks nobody is taken wherever nothing failed. -/
theorem attempt_of_given {step : Step} {s : Setting} (plain : step.given? = some s) (d : Draft) :
    step.attempt d = pure (s.apply d) := by
  cases step <;> cases plain <;> rfl

/-- A step that is taken adds its setting to those before. -/
theorem exists_sets_of_attempt {step : Step}
    (taken : (step.attempt (settled chainId before)).outcome node t = (.ok d, t')) :
    ∃ set, step.Sets node (settled chainId before) t set t' ∧
      d = settled chainId (before ++ set.toList) := by
  cases plain : step.given? with
  | some s =>
    rw [attempt_of_given plain, apply_settled] at taken
    cases taken
    exact ⟨some s, .given plain, rfl⟩
  | none =>
    cases step with
    | nonceFrom source =>
      obtain ⟨owner, _, needs, rest⟩ := outcome_bind_ok.mp taken
      obtain ⟨owned, rfl⟩ := outcome_ofExcept_ok.mp needs
      obtain ⟨n, _, told, last⟩ := outcome_bind_ok.mp rest
      cases last
      refine ⟨some ⟨.nonce, n⟩, ?_, apply_settled chainId before ⟨.nonce, n⟩⟩
      exact .nonce (requireSender_eq_ok.mp owned) (outcome_wrapping_ok.mp told)
    | quoteFrom source =>
      obtain ⟨q, _, told, last⟩ := outcome_bind_ok.mp taken
      cases last
      exact ⟨some ⟨.quote, q⟩, .quote told, apply_settled chainId before ⟨.quote, q⟩⟩
    | gasLimitFrom estimator =>
      obtain ⟨n, _, needs, rest⟩ := outcome_bind_ok.mp taken
      obtain ⟨ready, rfl⟩ := outcome_ofExcept_ok.mp needs
      obtain ⟨limit, _, told, last⟩ := outcome_bind_ok.mp rest
      cases last
      refine ⟨some ⟨.gasLimit, limit⟩, ?_, apply_settled chainId before ⟨.gasLimit, limit⟩⟩
      exact .gasLimit ready (outcome_wrapping_ok.mp told)
    | funds covered =>
      obtain ⟨payer, _, needs, rest⟩ := outcome_bind_ok.mp taken
      obtain ⟨owned, rfl⟩ := outcome_ofExcept_ok.mp needs
      obtain ⟨⟨⟩, _, passed, last⟩ := outcome_bind_ok.mp rest
      cases last
      refine ⟨none, .funds (requireSender_eq_ok.mp owned) passed, ?_⟩
      rw [Option.toList_none, List.append_nil]
    | check strict decide =>
      refine ⟨none, .check taken, ?_⟩
      rw [Option.toList_none, List.append_nil]
      obtain ⟨_, _, -, rest⟩ := outcome_bind_ok.mp taken
      cases decide with
      | none =>
        cases rest
        rfl
      | some decide =>
        obtain ⟨_, _, -, last⟩ := outcome_bind_ok.mp rest
        cases last
        rfl
    | _ => cases plain

/-- Once a step has failed, no step does anything. -/
theorem run_of_failed {failure : Failure} (failed : d.failure = some failure) (step : Step) :
    step.run d = pure d := by
  simp [Step.run, failed]

end OneStep

/-! ## All steps -/

/-- Every step is taken, and this is what they set behind what was set before. -/
inductive Settles (chainId : Word) (node : Node) :
    List Setting → Trace → List Step → List Setting → Trace → Prop
  | done {settings : List Setting} {t : Trace} :
      Settles chainId node settings t [] settings t
  | step {before settings : List Setting} {t between t' : Trace} {step : Step} {rest : List Step}
      {set : Option Setting} (sets : step.Sets node (settled chainId before) t set between)
      (later : Settles chainId node (before ++ set.toList) between rest settings t') :
      Settles chainId node before t (step :: rest) settings t'

/-- Some steps are taken, the next one fails, and the trace ends there. -/
def Breaks (chainId : Word) (node : Node) (before : List Setting) (t : Trace) (steps : List Step)
    (settings : List Setting) (failure : Failure) (t' : Trace) : Prop :=
  ∃ taken step skipped between, steps = taken ++ step :: skipped ∧
    Settles chainId node before t taken settings between ∧
    (step.attempt (settled chainId settings)).outcome node between = (.error failure, t')

section AllSteps

variable {node : Node} {chainId : Word}

/-- The steps all settle, or they break at the first one that fails. -/
theorem run_runAll_settled (steps : List Step) (before : List Setting) (t : Trace) :
    (∃ settings t', Settles chainId node before t steps settings t' ∧
      ((runAll steps (settled chainId before)).run node).run t = (settled chainId settings, t')) ∨
    (∃ settings failure t', Breaks chainId node before t steps settings failure t' ∧
      ((runAll steps (settled chainId before)).run node).run t
        = ({ settled chainId settings with failure := some failure }, t')) := by
  induction steps generalizing before t with
  | nil => exact .inl ⟨before, t, .done, rfl⟩
  | cons step rest ih =>
    rw [runAll, ReaderT.run_bind, StateT.run_bind]
    cases ended : (step.attempt (settled chainId before)).outcome node t with
    | mk result between =>
      cases result with
      | ok d =>
        rw [run_step_of_ok rfl ended]
        obtain ⟨set, sets, rfl⟩ := exists_sets_of_attempt ended
        rcases ih (before ++ set.toList) between with settled | broken
        · obtain ⟨settings, t', later, ran⟩ := settled
          exact .inl ⟨settings, t', .step sets later, ran⟩
        · obtain ⟨settings, failure, t', ⟨taken, next, skipped, last, rfl, later, fails⟩, ran⟩ :=
            broken
          exact .inr ⟨settings, failure, t',
            ⟨step :: taken, next, skipped, last, rfl, .step sets later, fails⟩, ran⟩
      | error failure =>
        rw [run_step_of_error rfl ended]
        refine .inr ⟨before, failure, between, ⟨[], step, rest, t, rfl, .done, ended⟩, ?_⟩
        exact run_runAll_of_failed rfl rest

/-- Steps that ask nobody set what they were given. -/
theorem run_runAll_map_step (settings before : List Setting) (t : Trace) :
    ((runAll (settings.map Setting.step) (settled chainId before)).run node).run t
      = (settled chainId (before ++ settings), t) := by
  induction settings generalizing before with
  | nil => rw [List.append_nil]; rfl
  | cons s rest ih =>
    have plain : s.step.given? = some s := by
      obtain ⟨part, value⟩ := s
      cases part <;> rfl
    have taken : (s.step.attempt (settled chainId before)).outcome node t
        = (.ok (settled chainId (before ++ [s])), t) := by
      rw [attempt_of_given plain, apply_settled]
      rfl
    have later := ih (before ++ [s])
    rw [List.append_assoc] at later
    rw [List.map_cons, runAll, ReaderT.run_bind, StateT.run_bind, run_step_of_ok rfl taken]
    exact later

end AllSteps

/-! ## The kind of the price -/

/-- All is there that a transaction needs, with a certain quote. -/
structure Complete (d : Draft) (q : GasQuote) : Prop where
  unbroken : d.failure = none
  sender : d.sender.isSome = true
  quote : d.quote = some q
  nonce : d.nonce.isSome = true
  gasLimit : d.gasLimit.isSome = true

/-- What is said where the kind of the quote is not that of the type. -/
def wrongKind (type : TxType) : Failure :=
  .missing (if type.isDynamicFee then .cappedPrice else .singlePrice)

theorem isSome_priced? (q : GasQuote) (type : TxType) (chainId : Word) :
    (priced? q (Envelope.new type chainId)).isSome = (q.isDynamic == type.isDynamicFee) := by
  cases q <;> cases type <;> rfl

theorem assembleAs_of_complete {d : Draft} {q : GasQuote} (complete : d.Complete q)
    (type : TxType) :
    (q.isDynamic = type.isDynamicFee → ∃ e, d.assembleAs type = .ok e) ∧
    (q.isDynamic ≠ type.isDynamicFee → d.assembleAs type = .error (wrongKind type)) := by
  obtain ⟨unbroken, sender, quote, nonce, gasLimit⟩ := complete
  obtain ⟨a, owned⟩ := Option.isSome_iff_exists.mp sender
  obtain ⟨n, counted⟩ := Option.isSome_iff_exists.mp nonce
  obtain ⟨limit, limited⟩ := Option.isSome_iff_exists.mp gasLimit
  have kind := isSome_priced? q type d.chainId
  unfold assembleAs requireGasLimit requireNonce requireQuote requireSender
  rw [unbroken, owned, quote, counted, limited]
  constructor
  · intro agrees
    rw [agrees, beq_self_eq_true] at kind
    obtain ⟨e, priced⟩ := Option.isSome_iff_exists.mp kind
    simp [orMissing, bind, Except.bind, priced, pure, Except.pure]
  · intro differs
    rw [beq_eq_false_iff_ne.mpr differs, Option.isSome_eq_false_iff, Option.isNone_iff_eq_none]
      at kind
    simp [orMissing, bind, Except.bind, kind, wrongKind]
    rfl

/-- Where nothing failed, all is there, or something is missing that is looked for before the kind of
the price. -/
theorem complete_or_missing {d : Draft} (unbroken : d.failure = none) (type : TxType) :
    (∃ q, d.Complete q) ∨
      ∃ what ∈ [Requirement.sender, .price, .nonce, .gasLimit],
        d.assembleAs type = .error (.missing what) := by
  unfold assembleAs requireGasLimit requireNonce requireQuote requireSender
  rw [unbroken]
  cases owned : d.sender with
  | none => exact .inr ⟨.sender, by decide, rfl⟩
  | some a =>
    cases quote : d.quote with
    | none => exact .inr ⟨.price, by decide, rfl⟩
    | some q =>
      cases counted : d.nonce with
      | none => exact .inr ⟨.nonce, by decide, rfl⟩
      | some n =>
        cases limited : d.gasLimit with
        | none => exact .inr ⟨.gasLimit, by decide, rfl⟩
        | some limit =>
          exact .inl ⟨q, unbroken, by rw [owned]; rfl, quote, by rw [counted]; rfl,
            by rw [limited]; rfl⟩

theorem complete_of_wrongKind {d : Draft} {type other : TxType} (unbroken : d.failure = none)
    (refused : d.assembleAs type = .error (wrongKind other)) : ∃ q, d.Complete q := by
  rcases complete_or_missing unbroken type with complete | ⟨what, member, missing⟩
  · exact complete
  · rw [missing, wrongKind] at refused
    injection refused with same
    injection same with same
    subst same
    split at member <;> simp at member

theorem assembleAs_eq_wrongKind_iff {d : Draft} (unbroken : d.failure = none) (type : TxType) :
    d.assembleAs type = .error (wrongKind type) ↔
      ∃ q, d.Complete q ∧ q.isDynamic ≠ type.isDynamicFee := by
  constructor
  · intro refused
    obtain ⟨q, complete⟩ := complete_of_wrongKind unbroken refused
    refine ⟨q, complete, fun agrees => ?_⟩
    obtain ⟨e, assembled⟩ := (assembleAs_of_complete complete type).1 agrees
    rw [assembled] at refused
    cases refused
  · rintro ⟨q, complete, differs⟩
    exact (assembleAs_of_complete complete type).2 differs

/-- The type that goes with the quote has its kind of price. -/
theorem assemble_ne_wrongKind {d : Draft} (unbroken : d.failure = none) (other : TxType) :
    d.assemble ≠ .error (wrongKind other) := by
  intro refused
  obtain ⟨q, complete⟩ := complete_of_wrongKind unbroken refused
  have agrees : q.isDynamic = d.type.isDynamicFee := by
    rw [type, complete.quote, Option.any_some]
    cases q.isDynamic <;> rfl
  obtain ⟨e, assembled⟩ := (assembleAs_of_complete complete d.type).1 agrees
  rw [assemble, assembled] at refused
  cases refused

/-! ## The transaction of a run -/

theorem assemble_of_failed {d : Draft} {failure : Failure} (failed : d.failure = some failure) :
    d.assemble = .error failure := by
  rw [assemble, assembleAs, failed]
  rfl

/-- What is built is unsigned, and its type is that of the last quote. -/
theorem type_of_built {chainId : Word} {settings : List Setting} {e : Envelope}
    (ok : built chainId settings = .ok e) :
    e.signature = .empty ∧ ∃ q, last? .quote settings = some q ∧
      e.type = if q.isDynamic then .dynamicFee else .legacy := by
  unfold built at ok
  split at ok
  · cases ok
  · cases ok
  · cases ok
  · cases ok
  · rename_i q _ _ _ quote _ _
    cases ok
    refine ⟨rfl, q, quote, ?_⟩
    cases q <;> rfl

/-- A run of steps ends in one of two ways. Every step is taken, and the transaction is that of what
was set last; or a first step fails, after which nothing is done, and its failure is what is given
in the place of a transaction. Settings of different parts may change places. The kind of the price
is wrong only for a type that was asked for, and then exactly where it is not that of the quote. -/
theorem assemble_reflects_run (chainId : Word) (node : Node) (t : Trace) :
    (∀ steps,
      (∃ settings t', Settles chainId node [] t steps settings t' ∧
        ((runAll steps (new chainId)).run node).run t = (settled chainId settings, t') ∧
        (settled chainId settings).assemble = built chainId settings) ∨
      (∃ settings failure t', Breaks chainId node [] t steps settings failure t' ∧
        ((runAll steps (new chainId)).run node).run t
          = ({ settled chainId settings with failure := some failure }, t') ∧
        { settled chainId settings with failure := some failure }.assemble = .error failure)) ∧
    (∀ d failure, d.failure = some failure → ∀ step : Step, step.run d = pure d) ∧
    (∀ settings e, built chainId settings = .ok e → e.signature = .empty ∧
      ∃ q, last? .quote settings = some q ∧
        e.type = if q.isDynamic then .dynamicFee else .legacy) ∧
    (∀ a b : List Setting,
      (∀ p, a.filter (fun s => s.part = p) = b.filter (fun s => s.part = p)) →
      (((runAll (a.map Setting.step) (new chainId)).run node).run t).1.assemble
        = (((runAll (b.map Setting.step) (new chainId)).run node).run t).1.assemble) ∧
    (∀ d : Draft, d.failure = none → ∀ type,
      d.assemble ≠ .error (wrongKind type) ∧
      (d.assembleAs type = .error (wrongKind type) ↔
        ∃ q, d.Complete q ∧ q.isDynamic ≠ type.isDynamicFee)) := by
  refine ⟨?_, fun d failure => run_of_failed, fun settings e => type_of_built, ?_, ?_⟩
  · intro steps
    rw [← settled_nil]
    rcases run_runAll_settled steps [] t with settled | broken
    · obtain ⟨settings, t', settles, ran⟩ := settled
      exact .inl ⟨settings, t', settles, ran, assemble_settled chainId settings⟩
    · obtain ⟨settings, failure, t', breaks, ran⟩ := broken
      exact .inr ⟨settings, failure, t', breaks, ran, assemble_of_failed rfl⟩
  · intro a b same
    rw [← settled_nil, run_runAll_map_step, run_runAll_map_step, List.nil_append, List.nil_append,
      assemble_settled, assemble_settled]
    exact built_eq_of_filter chainId same
  · intro d unbroken type
    exact ⟨assemble_ne_wrongKind unbroken type, assembleAs_eq_wrongKind_iff unbroken type⟩

/-- A nonce is not asked for before there is a sender, and no later step mends that. -/
example (source : NonceSource) (a : Address) (node : Node) (t : Trace) :
    ((runAll [.nonceFrom source, .sender a] (new 1)).run node).run t
      = ({ new 1 with failure := some (.missing .sender) }, t) := rfl

end Draft

end TxCourier
