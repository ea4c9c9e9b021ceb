import TxCourier.Session

/-! # Runs of attempts

How an attempt ends with a node and what it leaves in the trace, told step by step. A quiet attempt
is one in the course of which no transaction is handed to the node. -/
namespace TxCourier

namespace Trace

/-- The transactions that were handed to the node, the newest first. -/
def sent (t : Trace) : List Bytes :=
  t.queries.filterMap fun
    | .send wire => some wire
    | _ => none

/-- The trace after a question whose answer was waited for. -/
def after (q : Query) (delay : Nat) (t : Trace) : Trace := (t.record (.asked q)).wait delay

@[simp] theorem queries_after (q : Query) (delay : Nat) (t : Trace) :
    (t.after q delay).queries = q :: t.queries := rfl

theorem sent_after {q : Query} (quiet : q.isSend = false) (delay : Nat) (t : Trace) :
    (t.after q delay).sent = t.sent := by
  cases q <;> first | rfl | cases quiet

end Trace

/-- A node answers a question, after others of which the newest comes first. -/
def Node.Answers (node : Node) (asked : List Query) (q : Query) (answer : q.Answer) : Prop :=
  (node asked q).result = .ok answer

namespace Attempt

variable {α β : Type} {node : Node} {t t' : Trace} {asked : List Query}

/-- The end of an attempt with a node, and the trace after it. -/
def outcome (a : Attempt α) (node : Node) (t : Trace) : Except Failure α × Trace :=
  (a.run.run node).run t

@[simp] theorem outcome_pure (x : α) : outcome (pure x) node t = (.ok x, t) := rfl

@[simp] theorem outcome_throw (failure : Failure) :
    outcome (throw failure : Attempt α) node t = (.error failure, t) := rfl

@[simp] theorem outcome_record (event : Event) :
    outcome (record event) node t = (.ok (), t.record event) := rfl

theorem outcome_lift (s : Session α) :
    outcome (liftM s) node t = (.ok ((s.run node).run t).1, ((s.run node).run t).2) := rfl

@[simp] theorem outcome_sessionAsk (q : Query) :
    outcome (liftM (Session.ask q)) node t
      = (.ok (node t.queries q).result, t.after q (node t.queries q).delay) := rfl

theorem outcome_bind (a : Attempt α) (f : α → Attempt β) :
    outcome (a >>= f) node t =
      match outcome a node t with
      | (.ok x, t') => outcome (f x) node t'
      | (.error failure, t') => (.error failure, t') := by
  unfold outcome
  rw [ExceptT.run_bind, ReaderT.run_bind, StateT.run_bind]
  cases ended : (a.run.run node).run t with
  | mk result t' =>
    cases result with
    | ok x => rfl
    | error failure => rfl

theorem outcome_bind_ok {a : Attempt α} {f : α → Attempt β} {y : β} :
    outcome (a >>= f) node t = (.ok y, t') ↔
      ∃ x between, outcome a node t = (.ok x, between) ∧
        outcome (f x) node between = (.ok y, t') := by
  rw [outcome_bind]
  cases ended : outcome a node t with
  | mk result between =>
    cases result with
    | ok x =>
      constructor
      · intro rest
        exact ⟨x, between, rfl, rest⟩
      · rintro ⟨_, _, same, rest⟩
        cases same
        exact rest
    | error failure => simp

theorem outcome_wrapping (wrap : Failure → Failure) (a : Attempt α) :
    outcome (wrapping wrap a) node t =
      match outcome a node t with
      | (.ok x, t') => (.ok x, t')
      | (.error failure, t') => (.error (wrap failure), t') := by
  unfold outcome wrapping
  rw [ExceptT.run_tryCatch, ReaderT.run_bind, StateT.run_bind]
  cases ended : (a.run.run node).run t with
  | mk result t' =>
    cases result with
    | ok x => rfl
    | error failure => rfl

theorem outcome_wrapping_ok {wrap : Failure → Failure} {a : Attempt α} {x : α} :
    outcome (wrapping wrap a) node t = (.ok x, t') ↔ outcome a node t = (.ok x, t') := by
  rw [outcome_wrapping]
  cases ended : outcome a node t with
  | mk result between =>
    cases result with
    | ok x => simp
    | error failure => simp

theorem outcome_ask (q : Query) :
    outcome (ask q) node t
      = (match (node t.queries q).result with
        | .ok answer => .ok answer
        | .error e => .error (.node e), t.after q (node t.queries q).delay) := by
  unfold ask
  rw [outcome_bind, outcome_sessionAsk]
  cases reply : (node t.queries q).result with
  | ok answer => rfl
  | error e => rfl

/-- An answer is had only from a node that gives it. -/
theorem outcome_ask_ok {q : Query} {answer : q.Answer} :
    outcome (ask q) node t = (.ok answer, t') ↔
      node.Answers t.queries q answer ∧ t' = t.after q (node t.queries q).delay := by
  rw [outcome_ask, Node.Answers]
  cases reply : (node t.queries q).result with
  | ok got => simp [eq_comm]
  | error e => simp

/-- The attempt succeeds with a value, after just these questions. -/
def Reaches (a : Attempt α) (node : Node) (t : Trace) (x : α) (asked : List Query) : Prop :=
  ∃ t', outcome a node t = (.ok x, t') ∧ t'.queries = asked

theorem Reaches.pure (x : α) (same : t.queries = asked) : Reaches (Pure.pure x) node t x asked :=
  ⟨t, rfl, same⟩

theorem Reaches.ask {q : Query} {answer : q.Answer} (same : t.queries = asked)
    (answers : node.Answers asked q answer) : Reaches (ask q) node t answer (q :: asked) := by
  rw [← same] at answers ⊢
  exact ⟨_, outcome_ask_ok.mpr ⟨answers, rfl⟩, rfl⟩

/-- What goes on behind some questions goes on the same way whatever the time. -/
theorem Reaches.bind {a : Attempt α} {f : α → Attempt β} {x : α} {y : β}
    {between asked : List Query} (first : Reaches a node t x between)
    (rest : ∀ t', t'.queries = between → Reaches (f x) node t' y asked) :
    Reaches (a >>= f) node t y asked := by
  obtain ⟨t', ended, same⟩ := first
  obtain ⟨last, ended', same'⟩ := rest t' same
  exact ⟨last, outcome_bind_ok.mpr ⟨x, t', ended, ended'⟩, same'⟩

theorem Reaches.wrapping {a : Attempt α} {x : α} (reached : Reaches a node t x asked)
    (wrap : Failure → Failure) : Reaches (wrapping wrap a) node t x asked := by
  obtain ⟨t', ended, same⟩ := reached
  exact ⟨t', outcome_wrapping_ok.mpr ended, same⟩

/-! ## Quiet attempts -/

/-- No transaction is handed to the node, however the attempt ends. -/
def Quiet (a : Attempt α) : Prop := ∀ node t, (outcome a node t).2.sent = t.sent

theorem Quiet.pure (x : α) : Quiet (Pure.pure x) := fun _ _ => rfl

theorem Quiet.throw (failure : Failure) : Quiet (MonadExcept.throw failure : Attempt α) :=
  fun _ _ => rfl

theorem Quiet.ofExcept (e : Except Failure α) : Quiet (ofExcept e) := fun _ _ => rfl

theorem Quiet.bind {a : Attempt α} {f : α → Attempt β} (first : Quiet a) (rest : ∀ x, Quiet (f x)) :
    Quiet (a >>= f) := by
  intro node t
  have before := first node t
  rw [outcome_bind]
  cases ended : outcome a node t with
  | mk result between =>
    rw [ended] at before
    cases result with
    | ok x => exact (rest x node between).trans before
    | error failure => exact before

theorem Quiet.wrapping {a : Attempt α} (quiet : Quiet a) (wrap : Failure → Failure) :
    Quiet (wrapping wrap a) := by
  intro node t
  have before := quiet node t
  rw [outcome_wrapping]
  cases ended : outcome a node t with
  | mk result between =>
    rw [ended] at before
    cases result with
    | ok x => exact before
    | error failure => exact before

theorem Quiet.sessionAsk {q : Query} (other : q.isSend = false) :
    Quiet (liftM (Session.ask q)) := fun _ t => Trace.sent_after other _ t

theorem Quiet.signed (digest : Hash) : Quiet (record (.signed digest)) := fun _ _ => rfl

theorem Quiet.inspected (e : Envelope) : Quiet (record (.inspected e)) := fun _ _ => rfl

end Attempt

end TxCourier
