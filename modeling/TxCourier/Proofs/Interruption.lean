import TxCourier.Proofs.Polling

/-! # Waits that are broken off

A wait goes just as it would go if nobody broke it off, up to the question or the pause that is
under way at that moment, or up to where it was then between two of them. There it ends, and nothing
that would come later is done. -/
namespace TxCourier

open Attempt

namespace Moment

variable {m : Moment} {now count : Nat}

theorem hasCome_iff :
    m.hasCome now count = true ↔
      m.millis < now ∨ m.millis = now ∧ ∃ n, m.count = some n ∧ n ≤ count := by
  unfold hasCome
  cases m.count <;> simp

/-- A moment that has not come leaves room for one thing more that takes no time. -/
theorem le_of_not_hasCome (early : m.hasCome now count = false) :
    now < m.millis ∨ now = m.millis ∧ ∀ n, m.count = some n → count + 1 ≤ n := by
  have ahead : ¬ (m.millis < now ∨ m.millis = now ∧ ∃ n, m.count = some n ∧ n ≤ count) := by
    rw [← hasCome_iff, early]
    exact Bool.false_ne_true
  rcases Nat.lt_trichotomy now m.millis with sooner | same | later
  · exact .inl sooner
  · refine .inr ⟨same, fun n numbered => Nat.lt_of_not_le fun few => ?_⟩
    exact ahead (.inr ⟨same.symm, n, numbered, few⟩)
  · exact absurd (.inl later) ahead

end Moment

namespace Trace

/-- The same events, and the clock at some time. -/
def stoppedAt (millis : Nat) (t : Trace) : Trace := { t with now := millis }

/-- The trace has come about by a moment. -/
def IsBy (m : Moment) (t : Trace) : Prop :=
  t.now < m.millis ∨ t.now = m.millis ∧ ∀ n, m.count = some n → t.count ≤ n

/-- Something that takes its time: the trace before it, the trace with what is seen of it while it
lasts, and the trace after it. -/
inductive Passes (node : Node) : Trace → Trace → Trace → Prop where
  | question (t : Trace) (q : Query) :
      Passes node t (t.record (.asked q)) (t.after q (node t.queries q).delay)
  | pause (t : Trace) (millis : Nat) : Passes node t t (t.rested millis)

/-- One trace comes of another by questions and pauses. -/
inductive Through (node : Node) : Trace → Trace → Prop where
  | refl (t : Trace) : Through node t t
  | step {t s begun s' : Trace} (before : Through node t s) (passing : Passes node s begun s') :
      Through node t s'

variable {node : Node} {t s begun s' t' : Trace} {m : Moment}

theorem Passes.now_le (passing : Passes node s begun s') : s.now ≤ s'.now := by
  cases passing with
  | question q => exact Nat.le_add_right _ _
  | pause millis => exact Nat.le_add_right _ _

/-- One thing more is done afterwards than before, and at most one more than meanwhile. -/
theorem Passes.count_eq (passing : Passes node s begun s') :
    s'.count = s.count + 1 ∧ s'.count ≤ begun.count + 1 := by
  cases passing with
  | question q => exact ⟨rfl, Nat.le_add_right _ _⟩
  | pause millis => exact ⟨rfl, Nat.le_refl _⟩

theorem Through.trans (first : Through node t s) (rest : Through node s t') :
    Through node t t' := by
  induction rest with
  | refl => exact first
  | step _ passing ih => exact .step ih passing

/-- What is seen of something while it lasts is still there afterwards. -/
theorem Passes.suffix (passing : Passes node s begun s') :
    s.newestFirst <:+ begun.newestFirst ∧ begun.newestFirst <:+ s'.newestFirst := by
  cases passing with
  | question q => exact ⟨List.suffix_cons _ _, List.suffix_refl _⟩
  | pause millis => exact ⟨List.suffix_refl _, List.suffix_cons _ _⟩

theorem Through.suffix (through : Through node t t') : t.newestFirst <:+ t'.newestFirst := by
  induction through with
  | refl => exact List.suffix_refl _
  | step _ passing ih => exact (ih.trans passing.suffix.1).trans passing.suffix.2

/-! ## Moments on the way -/

theorem IsBy.of_not_hasCome (early : m.hasCome t.now t.count = false) : t.IsBy m := by
  rcases Moment.le_of_not_hasCome early with sooner | ⟨same, fewer⟩
  · exact .inl sooner
  · exact .inr ⟨same, fun n numbered => Nat.le_of_succ_le (fewer n numbered)⟩

/-- A moment by which a trace came about, and that has come, is the end of that trace. -/
theorem IsBy.eq_of_hasCome (soon : t.IsBy m) (come : m.hasCome t.now t.count = true) :
    m = ⟨t.now, some t.count⟩ := by
  obtain ⟨millis, count⟩ := m
  rcases Moment.hasCome_iff.mp come with late | ⟨same, n, numbered, few⟩
  · rcases soon with sooner | ⟨same, -⟩
    · exact absurd (Nat.lt_trans late sooner) (Nat.lt_irrefl _)
    · exact absurd late (Nat.not_lt.mpr (Nat.le_of_eq same))
  · rcases soon with sooner | ⟨-, many⟩
    · exact absurd sooner (Nat.not_lt.mpr (Nat.le_of_eq same))
    · have whole : n = t.count := Nat.le_antisymm few (many n numbered)
      dsimp only at same numbered
      rw [same, numbered, whole]

/-- What is over without being broken off came about by the moment. -/
theorem Passes.isBy (passing : Passes node s begun s') (early : m.hasCome s.now s.count = false)
    (kept : ¬ (s.now < s'.now ∧ m.hasCome s'.now begun.count = true)) : s'.IsBy m := by
  obtain ⟨more, behind⟩ := passing.count_eq
  rcases Nat.lt_or_eq_of_le passing.now_le with lasts | atOnce
  · have unbroken : m.hasCome s'.now begun.count = false :=
      eq_false_of_ne_true fun come => kept ⟨lasts, come⟩
    rcases Moment.le_of_not_hasCome unbroken with sooner | ⟨same, fewer⟩
    · exact .inl sooner
    · exact .inr ⟨same, fun n numbered => Nat.le_trans behind (fewer n numbered)⟩
  · unfold IsBy
    rw [← atOnce, more]
    exact Moment.le_of_not_hasCome early

end Trace

namespace Attempt

open Trace

/-- What comes of an attempt that is broken off at some moment beside what came of it if it were
not. -/
inductive CutOff {α : Type} (node : Node) (m : Moment) (t : Trace) :
    Except Failure α × Trace → Except Failure α × Trace → Prop where
  /-- It was over by then. -/
  | finished {result : Except Failure α} {t' : Trace} (through : Through node t t')
      (soon : t'.IsBy m) : CutOff node m t (result, t') (result, t')
  /-- It was between two steps, of which the later one is not begun. -/
  | between {result : Except Failure α} {s begun s' t' : Trace} (before : Through node t s)
      (here : m = ⟨s.now, some s.count⟩) (passing : Passes node s begun s')
      (later : Through node s' t') : CutOff node m t (result, t') (.error .cancelled, s)
  /-- Something was under way that was not over before. -/
  | amid {result : Except Failure α} {s begun s' t' : Trace} (before : Through node t s)
      (passing : Passes node s begun s') (later : Through node s' t')
      (early : m.hasCome s.now s.count = false) (lasts : s.now < s'.now)
      (come : m.hasCome s'.now begun.count = true) :
      CutOff node m t (result, t') (.error .cancelled, begun.stoppedAt m.millis)

/-- Broken off at a moment to come, the attempt ends there. -/
def Interruptible {α : Type} (a : Cancellation → Attempt α) : Prop :=
  ∀ node t m, t.IsBy m →
    CutOff node m t (outcome (a .never) node t) (outcome (a (.made m)) node t)

variable {α β : Type} {node : Node} {t t' : Trace} {m : Moment}

theorem CutOff.through {result : Except Failure α} {ended : Except Failure α × Trace}
    (cut : CutOff node m t (result, t') ended) : Through node t t' := by
  cases cut with
  | finished through _ => exact through
  | between before _ passing later => exact (before.step passing).trans later
  | amid before passing later _ _ _ => exact (before.step passing).trans later

theorem CutOff.after {s : Trace} {whole ended : Except Failure α × Trace}
    (through : Through node t s) (cut : CutOff node m s whole ended) :
    CutOff node m t whole ended := by
  cases cut with
  | finished rest soon => exact .finished (through.trans rest) soon
  | between before here passing later => exact .between (through.trans before) here passing later
  | amid before passing later early lasts come =>
    exact .amid (through.trans before) passing later early lasts come

theorem Interruptible.through {a : Cancellation → Attempt α} (cut : Interruptible a) :
    Through node t (outcome (a .never) node t).2 :=
  -- A moment at which all that takes no time is done cuts nothing off here.
  (cut node t ⟨t.now, none⟩ (.inr ⟨rfl, fun _ numbered => nomatch numbered⟩)).through

theorem Interruptible.pure (x : α) : Interruptible fun _ => (Pure.pure x : Attempt α) :=
  fun _ t _ soon => .finished (.refl t) soon

theorem Interruptible.throw (failure : Failure) :
    Interruptible fun _ => (MonadExcept.throw failure : Attempt α) :=
  fun _ t _ soon => .finished (.refl t) soon

theorem Interruptible.bind {a : Cancellation → Attempt α} {f : Cancellation → α → Attempt β}
    (first : Interruptible a) (rest : ∀ x, Interruptible fun c => f c x) :
    Interruptible fun c => a c >>= f c := by
  intro node t m soon
  have cut := first node t m soon
  rw [outcome_bind, outcome_bind]
  generalize outcome (a .never) node t = whole at cut ⊢
  generalize outcome (a (.made m)) node t = ended at cut ⊢
  cases cut with
  | @finished result t' through soon =>
    cases result with
    | ok x => exact (rest x node t' m soon).after through
    | error failure => exact .finished through soon
  | @between result s begun s' t' before here passing later =>
    cases result with
    | ok x => exact .between before here passing (later.trans (rest x).through)
    | error failure => exact .between before here passing later
  | @amid result s begun s' t' before passing later early lasts come =>
    cases result with
    | ok x => exact .amid before passing (later.trans (rest x).through) early lasts come
    | error failure => exact .amid before passing later early lasts come

/-- One step goes on unless the moment has come before it, or comes while it lasts. -/
theorem CutOff.step {begun : Trace} {result : Except Failure α}
    (passing : Passes node t begun t') (soon : t.IsBy m) :
    CutOff node m t (result, t')
      (if m.hasCome t.now t.count = true then (.error .cancelled, t)
        else if t.now < t'.now ∧ m.hasCome t'.now begun.count = true
        then (.error .cancelled, begun.stoppedAt m.millis)
        else (result, t')) := by
  split
  · rename_i come
    exact .between (.refl t) (soon.eq_of_hasCome come) passing (.refl t')
  · rename_i ahead
    have early := eq_false_of_ne_true ahead
    split
    · rename_i broken
      exact .amid (.refl t) passing (.refl t') early broken.1 broken.2
    · rename_i kept
      exact .finished ((Through.refl t).step passing) (passing.isBy early kept)

theorem now_add_sub (early : m.hasCome t.now t.count = false) :
    t.now + (m.millis - t.now) = m.millis := by
  rcases Moment.le_of_not_hasCome early with sooner | ⟨same, -⟩
  · exact Nat.add_sub_of_le (Nat.le_of_lt sooner)
  · exact Nat.add_sub_of_le (Nat.le_of_eq same)

theorem outcome_askUnless_made (q : Query) :
    outcome (askUnless (.made m) q) node t =
      if m.hasCome t.now t.count = true then (.error .cancelled, t)
      else if t.now < (t.after q (node t.queries q).delay).now ∧
        m.hasCome (t.after q (node t.queries q).delay).now (t.record (.asked q)).count = true
      then (.error .cancelled, (t.record (.asked q)).stoppedAt m.millis)
      else outcome (askUnless .never q) node t := by
  have clock : (t.after q (node t.queries q).delay).now = t.now + (node t.queries q).delay := rfl
  have lasts : t.now < t.now + (node t.queries q).delay ↔ (node t.queries q).delay ≠ 0 := by omega
  simp only [clock, lasts]
  conv => lhs; unfold askUnless
  rw [outcome_get_bind, Cancellation.isSeenAt]
  split
  · rfl
  · rename_i ahead
    rw [outcome_read_bind]
    dsimp only [Cancellation.breaksOff?]
    by_cases broken : (node t.queries q).delay ≠ 0 ∧
        m.hasCome (t.now + (node t.queries q).delay) (t.record (.asked q)).count = true
    · rw [if_pos broken, if_pos broken]
      dsimp only
      rw [outcome_set_bind, outcome_throw]
      unfold Trace.wait Trace.record Trace.stoppedAt
      dsimp only
      rw [now_add_sub (eq_false_of_ne_true ahead)]
    · rw [if_neg broken, if_neg broken]
      rfl

theorem outcome_pauseUnless_made (millis : Nat) :
    outcome (pauseUnless (.made m) millis) node t =
      if m.hasCome t.now t.count = true then (.error .cancelled, t)
      else if t.now < (t.rested millis).now ∧ m.hasCome (t.rested millis).now t.count = true
      then (.error .cancelled, t.stoppedAt m.millis)
      else outcome (pauseUnless .never millis) node t := by
  have clock : (t.rested millis).now = t.now + lasting millis := rfl
  have lasts : t.now < t.now + lasting millis ↔ lasting millis ≠ 0 := by omega
  simp only [clock, lasts]
  conv => lhs; unfold pauseUnless
  rw [outcome_get_bind, Cancellation.isSeenAt]
  split
  · rfl
  · rename_i ahead
    dsimp only [Cancellation.breaksOff?]
    by_cases broken : lasting millis ≠ 0 ∧ m.hasCome (t.now + lasting millis) t.count = true
    · rw [if_pos broken, if_pos broken]
      change outcome (set (t.wait (m.millis - t.now)) >>= fun _ => throw .cancelled) node t = _
      rw [outcome_set_bind, outcome_throw]
      unfold Trace.wait Trace.stoppedAt
      rw [now_add_sub (eq_false_of_ne_true ahead)]
    · rw [if_neg broken, if_neg broken]
      rfl

theorem Interruptible.askUnless (q : Query) : Interruptible fun c => askUnless c q := by
  intro node t m soon
  rw [outcome_askUnless_made, outcome_askUnless_never]
  exact CutOff.step (.question t q) soon

theorem Interruptible.pauseUnless (millis : Nat) :
    Interruptible fun c => pauseUnless c millis := by
  intro node t m soon
  rw [outcome_pauseUnless_made, outcome_pauseUnless_never]
  exact CutOff.step (.pause t millis) soon

end Attempt

namespace Delivery

theorem interruptible_firstReceipt (hash : Hash) (pause left : Nat) :
    Interruptible fun c => firstReceipt hash pause c left := by
  induction left with
  | zero => exact Interruptible.pure none
  | succ left ih =>
    refine Interruptible.bind (Interruptible.askUnless (.receipt hash)) fun answer => ?_
    cases answer with
    | some receipt => exact Interruptible.pure _
    | none =>
      dsimp only
      split
      · exact Interruptible.pure none
      · exact Interruptible.bind (Interruptible.pauseUnless pause) fun _ => ih

theorem interruptible_isBuried (block confirmations : UInt64) (pause fuel : Nat) :
    Interruptible fun c => isBuried block confirmations pause c fuel := by
  induction fuel with
  | zero => exact Interruptible.pure false
  | succ fuel ih =>
    refine Interruptible.bind (Interruptible.askUnless .blockNumber) fun head => ?_
    split
    · exact Interruptible.pure true
    · exact Interruptible.bind (Interruptible.pauseUnless pause) fun _ => ih

theorem interruptible_await (polling : Polling) (hash : Hash) (confirmations : UInt64)
    (fuel : Nat) : Interruptible fun c => await polling hash confirmations c fuel := by
  refine Interruptible.bind (interruptible_firstReceipt hash polling.pause _) fun found => ?_
  cases found with
  | none => exact Interruptible.pure _
  | some receipt =>
    dsimp only
    split
    · exact Interruptible.throw _
    · split
      · exact Interruptible.pure _
      · split
        · exact Interruptible.throw _
        · rename_i block _
          refine Interruptible.bind (interruptible_isBuried block confirmations _ fuel)
            fun buried => ?_
          cases buried with
          | true => exact Interruptible.pure _
          | false => exact Interruptible.pure _

/-! ## Broken off before it began -/

variable {node : Node} {t : Trace} {c : Cancellation}

theorem outcome_askUnless_seen (q : Query) (seen : c.isSeenAt t.now t.count = true) :
    outcome (askUnless c q) node t = (.error .cancelled, t) := by
  unfold askUnless
  rw [outcome_get_bind, seen]
  rfl

/-- A wait that was broken off before it began does nothing. Without a question to put there is
nothing to break off. -/
theorem outcome_await_seen (polling : Polling) (hash : Hash) (confirmations : UInt64) (fuel : Nat)
    (seen : c.isSeenAt t.now t.count = true) :
    outcome (await polling hash confirmations c fuel) node t =
      (if polling.attempts.toNat = 0 then .ok .missing else .error .cancelled, t) := by
  unfold await
  rw [outcome_bind]
  cases polling.attempts.toNat with
  | zero => rfl
  | succ left =>
    have broken : outcome (firstReceipt hash polling.pause c (left + 1)) node t
        = (.error .cancelled, t) := by
      refine (outcome_bind (askUnless c (.receipt hash)) _).trans ?_
      rw [outcome_askUnless_seen _ seen]
    rw [broken]
    rfl

end Delivery

end TxCourier
