import TxCourier.Draft.Step
import TxCourier.Proofs.Session

/-! # Runs of draft steps

A failure that is kept in a draft has the effect of a failure that is thrown: whoever goes on with
the draft only where nothing failed cannot tell the two apart. So the steps of a draft are followed
one by one as an attempt. -/
namespace TxCourier

namespace Draft

variable {node : Node} {t t' : Trace}

theorem failure_update {change : Draft → Draft} (keeps : ∀ d, (change d).failure = d.failure)
    (d : Draft) : (d.update change).failure = d.failure := by
  unfold update
  split
  · rfl
  · exact keeps d

/-- The draft after some steps, with the failure of a step thrown. -/
def attemptAll : List Step → Draft → Attempt Draft
  | [], d => pure d
  | step :: rest, d => step.attempt d >>= attemptAll rest

namespace Step

open Attempt

/-- A step that is taken leaves no failure behind. -/
theorem failure_of_attempt {step : Step} {d d' : Draft}
    (taken : outcome (step.attempt d) node t = (.ok d', t')) : d'.failure = d.failure := by
  cases step with
  | sender a | senderOf key | recipient whom mustBeContract | data b | value v | nonce n | quote q
  | gasLimit limit =>
    cases taken
    exact failure_update (by intro _; rfl) d
  | nonceFrom source =>
    obtain ⟨owner, _, -, taken⟩ := outcome_bind_ok.mp taken
    obtain ⟨n, _, -, taken⟩ := outcome_bind_ok.mp taken
    cases taken
    exact failure_update (by intro _; rfl) d
  | quoteFrom source =>
    obtain ⟨q, _, -, taken⟩ := outcome_bind_ok.mp taken
    cases taken
    exact failure_update (by intro _; rfl) d
  | gasLimitFrom estimator =>
    obtain ⟨_, _, -, taken⟩ := outcome_bind_ok.mp taken
    obtain ⟨limit, _, -, taken⟩ := outcome_bind_ok.mp taken
    cases taken
    exact failure_update (by intro _; rfl) d
  | funds covered =>
    obtain ⟨payer, _, -, taken⟩ := outcome_bind_ok.mp taken
    obtain ⟨_, _, -, taken⟩ := outcome_bind_ok.mp taken
    cases taken
    rfl
  | check strict decide =>
    obtain ⟨_, _, -, taken⟩ := outcome_bind_ok.mp taken
    cases decide with
    | none =>
      cases taken
      rfl
    | some decide =>
      obtain ⟨_, _, -, taken⟩ := outcome_bind_ok.mp taken
      cases taken
      rfl

end Step

theorem quiet_attemptAll {steps : List Step}
    (quiet : ∀ step ∈ steps, ∀ d, Attempt.Quiet (step.attempt d)) (d : Draft) :
    Attempt.Quiet (attemptAll steps d) := by
  induction steps generalizing d with
  | nil => exact Attempt.Quiet.pure d
  | cons step rest ih =>
    have later := ih fun other member => quiet other (List.mem_cons_of_mem step member)
    exact Attempt.Quiet.bind (quiet step List.mem_cons_self d) later

/-! ## The kept failure -/

theorem run_runAll_of_failed {d : Draft} {failure : Failure} (failed : d.failure = some failure)
    (steps : List Step) : ((runAll steps d).run node).run t = (d, t) := by
  induction steps with
  | nil => rfl
  | cons step rest ih =>
    have skipped : step.run d = pure d := by simp [Step.run, failed]
    rw [runAll, skipped, pure_bind]
    exact ih

theorem run_step_of_ok {step : Step} {d d' : Draft} (fine : d.failure = none)
    (taken : (step.attempt d).outcome node t = (.ok d', t')) :
    ((step.run d).run node).run t = (d', t') := by
  have ended : ((step.attempt d).run.run node).run t = (.ok d', t') := taken
  unfold Step.run
  rw [if_neg (by simp [fine]), ReaderT.run_bind, StateT.run_bind, ended]
  rfl

theorem run_step_of_error {step : Step} {d : Draft} {failure : Failure} (fine : d.failure = none)
    (broken : (step.attempt d).outcome node t = (.error failure, t')) :
    ((step.run d).run node).run t = ({ d with failure := some failure }, t') := by
  have ended : ((step.attempt d).run.run node).run t = (.error failure, t') := broken
  unfold Step.run
  rw [if_neg (by simp [fine]), ReaderT.run_bind, StateT.run_bind, ended]
  rfl

/-- The failure of a step is kept through all that follow. -/
theorem failure_runAll_of_error {step : Step} {d : Draft} {failure : Failure}
    (fine : d.failure = none) (broken : (step.attempt d).outcome node t = (.error failure, t'))
    (later : List Step) :
    (((runAll (step :: later) d).run node).run t).1.failure = some failure := by
  let latched : Draft := { d with failure := some failure }
  have skipped : ((runAll later latched).run node).run t' = (latched, t') :=
    run_runAll_of_failed rfl later
  rw [runAll, ReaderT.run_bind, StateT.run_bind, run_step_of_error fine broken]
  exact congrArg (fun ended => ended.1.failure) skipped

/-- Steps that hand nothing to the node hand nothing to it when their failure is kept. -/
theorem sent_runAll {steps : List Step}
    (quiet : ∀ step ∈ steps, ∀ d, Attempt.Quiet (step.attempt d)) (d : Draft) (t : Trace) :
    (((runAll steps d).run node).run t).2.sent = t.sent := by
  induction steps generalizing d t with
  | nil => rfl
  | cons step rest ih =>
    have later := ih fun other member => quiet other (List.mem_cons_of_mem step member)
    have first : (((step.run d).run node).run t).2.sent = t.sent := by
      have before := quiet step List.mem_cons_self d node t
      cases failed : d.failure with
      | some failure =>
        have skipped : step.run d = pure d := by simp [Step.run, failed]
        rw [skipped]
        rfl
      | none =>
        cases ended : (step.attempt d).outcome node t with
        | mk result between =>
          rw [ended] at before
          cases result with
          | ok d' => rw [run_step_of_ok failed ended]; exact before
          | error failure => rw [run_step_of_error failed ended]; exact before
    rw [runAll, ReaderT.run_bind, StateT.run_bind]
    exact (later _ _).trans first

/-- Steps whose failure is kept, and then something that stops at a kept failure, end as the same
steps with their failure thrown. -/
theorem outcome_runAll_bind {α : Type} (use : Draft → Attempt α)
    (stops : ∀ d failure, d.failure = some failure → ∀ t,
      (use d).outcome node t = (.error failure, t))
    (steps : List Step) {d : Draft} (fine : d.failure = none) (t : Trace) :
    Attempt.outcome (liftM (runAll steps d) >>= use) node t
      = Attempt.outcome (attemptAll steps d >>= use) node t := by
  -- A good step leaves a draft without failure, to which the induction applies. After a bad one the
  -- remaining steps do nothing, and the failure that was kept is the one that was thrown.
  induction steps generalizing d t with
  | nil => rfl
  | cons step rest ih =>
    rw [attemptAll, bind_assoc, Attempt.outcome_bind, Attempt.outcome_bind (step.attempt d),
      Attempt.outcome_lift, runAll, ReaderT.run_bind, StateT.run_bind]
    cases ended : (step.attempt d).outcome node t with
    | mk result between =>
      cases result with
      | ok d' =>
        rw [run_step_of_ok fine ended]
        have kept : d'.failure = none := (Step.failure_of_attempt ended).trans fine
        have later := ih kept between
        rw [Attempt.outcome_bind, Attempt.outcome_lift] at later
        exact later
      | error failure =>
        rw [run_step_of_error fine ended]
        let latched : Draft := { d with failure := some failure }
        have skipped : ((runAll rest latched).run node).run between = (latched, between) :=
          run_runAll_of_failed rfl rest
        change (use (((runAll rest latched).run node).run between).1).outcome node
          (((runAll rest latched).run node).run between).2 = (.error failure, between)
        rw [skipped]
        exact stops latched failure rfl between

end Draft

end TxCourier
