import TxCourier.Failure

/-! # Failures that are wrapped

On its way up a failure is wrapped in the steps in the course of which it happened and in the
estimates that it prevented. What is asked of a failure is asked of what is inside, at any depth and
in any order of the wrappers. There is no other failure than a bare one in some wrappers, and both
are told by the failure. -/
namespace TxCourier

/-- What a failure may be wrapped in. -/
inductive Wrapper where
  | during (step : String)
  | estimation
deriving DecidableEq, Repr

def Wrapper.wrap : Wrapper → Failure → Failure
  | during step => .during step
  | estimation => .estimation

namespace Failure

/-- The failure in some wrappers, of which the first is the outermost. -/
def wrapped (wrappers : List Wrapper) (f : Failure) : Failure := wrappers.foldr Wrapper.wrap f

/-- A question that no wrapper answers by itself is answered by what is inside all of them. -/
theorem ask_wrapped {α : Type} {question : Failure → α}
    (through : ∀ (w : Wrapper) (f : Failure), question (w.wrap f) = question f)
    (wrappers : List Wrapper) (f : Failure) : question (f.wrapped wrappers) = question f := by
  induction wrappers with
  | nil => rfl
  | cons w rest ih =>
    rw [wrapped, List.foldr_cons, through]
    exact ih

theorem isNodes_wrapped (wrappers : List Wrapper) (f : Failure) :
    (f.wrapped wrappers).isNodes = f.isNodes :=
  ask_wrapped (by intro w _; cases w <;> rfl) wrappers f

theorem shortfall?_wrapped (wrappers : List Wrapper) (f : Failure) :
    (f.wrapped wrappers).shortfall? = f.shortfall? :=
  ask_wrapped (by intro w _; cases w <;> rfl) wrappers f

theorem execution?_wrapped (wrappers : List Wrapper) (f : Failure) :
    (f.wrapped wrappers).execution? = f.execution? :=
  ask_wrapped (by intro w _; cases w <;> rfl) wrappers f

/-- An estimate among the wrappers says so, and steps say nothing. -/
theorem isEstimation_wrapped (wrappers : List Wrapper) (f : Failure) :
    (f.wrapped wrappers).isEstimation = true ↔
      Wrapper.estimation ∈ wrappers ∨ f.isEstimation = true := by
  induction wrappers with
  | nil => simp [wrapped]
  | cons w rest ih =>
    cases w with
    | during step =>
      have inside : (f.wrapped (.during step :: rest)).isEstimation
          = (f.wrapped rest).isEstimation := rfl
      rw [inside, ih]
      simp
    | estimation => exact iff_of_true rfl (.inl List.mem_cons_self)

/-- A node's error that was looked at came from the node. -/
theorem isNodes_of_execution? {f : Failure} {e : ExecutionError} (found : f.execution? = some e) :
    f.isNodes = true := by
  induction f with
  | execution _ => rfl
  | insufficientBalance s => exact Option.isSome_iff_exists.mpr ⟨e, found⟩
  | estimation inner ih => exact ih found
  | during step inner ih => exact ih found
  | _ => cases found

/-! ## What is inside -/

/-- The failure is no wrapper around another. -/
def IsBare (f : Failure) : Prop := ∀ (w : Wrapper) (inner : Failure), f ≠ w.wrap inner

theorem wrap_inj {v w : Wrapper} {f g : Failure} (same : v.wrap f = w.wrap g) : v = w ∧ f = g := by
  cases v with
  | during step =>
    cases w with
    | during other => cases same; exact ⟨rfl, rfl⟩
    | estimation => cases same
  | estimation =>
    cases w with
    | during other => cases same
    | estimation => cases same; exact ⟨rfl, rfl⟩

theorem exists_wrapped (f : Failure) :
    ∃ wrappers core, IsBare core ∧ core.wrapped wrappers = f := by
  induction f with
  | estimation inner ih =>
    obtain ⟨wrappers, core, bare, rfl⟩ := ih
    exact ⟨.estimation :: wrappers, core, bare, rfl⟩
  | during step inner ih =>
    obtain ⟨wrappers, core, bare, rfl⟩ := ih
    exact ⟨.during step :: wrappers, core, bare, rfl⟩
  | _ =>
    refine ⟨[], _, ?_, rfl⟩
    intro w inner
    cases w <;> exact Failure.noConfusion

/-- The wrappers are taken off one by one. Where one stack ends, so does the other, since a failure
with a wrapper around it is not bare. -/
theorem wrapped_inj {wrappers others : List Wrapper} {core inside : Failure} (bare : IsBare core)
    (alike : IsBare inside) (same : core.wrapped wrappers = inside.wrapped others) :
    wrappers = others ∧ core = inside := by
  induction wrappers generalizing others with
  | nil =>
    cases others with
    | nil => exact ⟨rfl, same⟩
    | cons w others => exact absurd same (bare w _)
  | cons v wrappers ih =>
    cases others with
    | nil => exact absurd same.symm (alike v _)
    | cons w others =>
      obtain ⟨rfl, inner⟩ := wrap_inj same
      obtain ⟨rfl, rfl⟩ := ih inner
      exact ⟨rfl, rfl⟩

/-- Whether the node is to blame, which funds were short and what the node said is answered through
any wrappers, and an estimate that failed is found behind any steps. A node's error is found in no
failure that is not the node's. Each failure is a bare one in wrappers, in one way only. -/
theorem questions_reach_inside :
    (∀ (wrappers : List Wrapper) (f : Failure),
      (f.wrapped wrappers).isNodes = f.isNodes ∧
      (f.wrapped wrappers).shortfall? = f.shortfall? ∧
      (f.wrapped wrappers).execution? = f.execution? ∧
      ((f.wrapped wrappers).isEstimation = true ↔
        .estimation ∈ wrappers ∨ f.isEstimation = true)) ∧
    (∀ f : Failure, f.execution?.isSome = true → f.isNodes = true) ∧
    ∀ f : Failure, ∃ wrappers core, IsBare core ∧ core.wrapped wrappers = f ∧
      ∀ others inside, IsBare inside → inside.wrapped others = f →
        others = wrappers ∧ inside = core := by
  refine ⟨?_, ?_, ?_⟩
  · intro wrappers f
    exact ⟨isNodes_wrapped wrappers f, shortfall?_wrapped wrappers f, execution?_wrapped wrappers f,
      isEstimation_wrapped wrappers f⟩
  · intro f found
    obtain ⟨e, found⟩ := Option.isSome_iff_exists.mp found
    exact isNodes_of_execution? found
  · intro f
    obtain ⟨wrappers, core, bare, whole⟩ := exists_wrapped f
    refine ⟨wrappers, core, bare, whole, ?_⟩
    intro others inside alike same
    exact wrapped_inj alike bare (same.trans whole.symm)

/-- An estimate for which no answer came, in the course of a step. -/
def lostEstimate : Failure :=
  .during "sending" (.estimation (.execution (.ofNode (.transport "eof"))))

theorem questions_reach_inside_lostEstimate :
    lostEstimate.execution?.isSome = true ∧ lostEstimate.isNodes = true ∧
    ∃ wrappers core, IsBare core ∧ core.wrapped wrappers = lostEstimate ∧
      [.during "sending", .estimation] = wrappers ∧
      .execution (.ofNode (.transport "eof")) = core := by
  refine ⟨rfl, questions_reach_inside.2.1 lostEstimate rfl, ?_⟩
  obtain ⟨wrappers, core, bare, whole, only⟩ := questions_reach_inside.2.2 lostEstimate
  have inner : IsBare (.execution (.ofNode (.transport "eof"))) := by
    intro w inner
    cases w <;> exact Failure.noConfusion
  exact ⟨wrappers, core, bare, whole, only _ _ inner rfl⟩

end Failure

end TxCourier
