import TxCourier.Proofs.Waiting

/-! # Polls

A wait puts one question until an answer ends that, and pauses between two of them. Nothing else
stands in the trace meanwhile, so the answers are replies to the question after so many like it, and
they decide where it stops. Here nobody breaks off. -/
namespace TxCourier

open Attempt

namespace Node

/-- The answer to a question that was put so many times since. -/
def reply (node : Node) (asked : List Query) (q : Query) (i : Nat) : Except NodeError q.Answer :=
  (node (List.replicate i q ++ asked) q).result

/-- The milliseconds that so many answers to a question take. -/
def answering (node : Node) (q : Query) : Nat → List Query → Nat
  | 0, _ => 0
  | n + 1, asked => (node asked q).delay + answering node q n (q :: asked)

theorem reply_later (node : Node) (asked : List Query) (q : Query) (i : Nat) :
    node.reply (q :: asked) q i = node.reply asked q (i + 1) := by
  unfold reply
  rw [List.replicate_succ', List.append_assoc]
  rfl

/-- The first answer of some kind. -/
structure StopsAt (node : Node) (asked : List Query) (q : Query)
    (stops : Except NodeError q.Answer → Prop) (i : Nat) : Prop where
  before : ∀ j, j < i → ¬ stops (node.reply asked q j)
  here : stops (node.reply asked q i)

theorem goes_or_stops (node : Node) (asked : List Query) (q : Query)
    (stops : Except NodeError q.Answer → Prop) (n : Nat) :
    (∀ j, j < n → ¬ stops (node.reply asked q j)) ∨
      ∃ i, i < n ∧ node.StopsAt asked q stops i := by
  induction n with
  | zero => exact .inl fun j below => absurd below (Nat.not_lt_zero j)
  | succ n ih =>
    rcases ih with goes | ⟨i, below, stopped⟩
    · by_cases last : stops (node.reply asked q n)
      · exact .inr ⟨n, Nat.lt_succ_self n, goes, last⟩
      · refine .inl fun j below => ?_
        rcases Nat.lt_succ_iff_lt_or_eq.mp below with earlier | same
        · exact goes j earlier
        · rw [same]
          exact last
    · exact .inr ⟨i, Nat.lt_succ_of_lt below, stopped⟩

end Node

namespace Trace

variable {node : Node} {pause : Nat} {q : Query}

/-- The trace after a pause. -/
def rested (pause : Nat) (t : Trace) : Trace :=
  (t.record (.paused pause)).wait (lasting pause)

/-- What so many questions leave with a pause between two of them. -/
def polls (pause : Nat) (q : Query) (n : Nat) : List Event :=
  (List.replicate n (.asked q)).intersperse (.paused pause)

/-- The trace when so many questions were put and answered, with a pause between two of them. -/
def polled (node : Node) (pause : Nat) (q : Query) (n : Nat) (t : Trace) : Trace :=
  ⟨t.now + (node.answering q n t.queries + (n - 1) * lasting pause),
    polls pause q n ++ t.newestFirst⟩

/-- The trace when a question is to be put again after so many of them. -/
def between (node : Node) (pause : Nat) (q : Query) : Nat → Trace → Trace
  | 0, t => t
  | i + 1, t => between node pause q i ((t.after q (node t.queries q).delay).rested pause)

theorem polls_succ_succ (n : Nat) :
    polls pause q (n + 2) = .asked q :: .paused pause :: polls pause q (n + 1) := rfl

/-- The same polls from their other end. -/
theorem polls_append (n : Nat) :
    polls pause q (n + 2) = polls pause q (n + 1) ++ [.paused pause, .asked q] := by
  induction n with
  | zero => rfl
  | succ n ih =>
    rw [polls_succ_succ (n + 1), polls_succ_succ n, List.cons_append, List.cons_append, ← ih]
    rfl

@[simp] theorem polled_zero (t : Trace) : polled node pause q 0 t = t := by
  unfold polled
  rw [Nat.zero_sub, Nat.zero_mul]
  rfl

theorem newestFirst_polled (n : Nat) (t : Trace) :
    (polled node pause q n t).newestFirst = polls pause q n ++ t.newestFirst := rfl

theorem polled_one (t : Trace) :
    polled node pause q 1 t = t.after q (node t.queries q).delay := by
  unfold polled
  rw [Nat.sub_self, Nat.zero_mul]
  rfl

theorem polled_later (n : Nat) (t : Trace) :
    polled node pause q (n + 2) t
      = polled node pause q (n + 1) ((t.after q (node t.queries q).delay).rested pause) := by
  have clock : t.now + (node.answering q (n + 2) t.queries + (n + 1) * lasting pause)
      = t.now + (node t.queries q).delay + lasting pause
        + (node.answering q (n + 1) (q :: t.queries) + n * lasting pause) := by
    have split : node.answering q (n + 2) t.queries
        = (node t.queries q).delay + node.answering q (n + 1) (q :: t.queries) := rfl
    rw [split, Nat.succ_mul]
    omega
  have events : polls pause q (n + 2) ++ t.newestFirst
      = polls pause q (n + 1) ++ .paused pause :: .asked q :: t.newestFirst := by
    rw [polls_append, List.append_assoc]
    rfl
  unfold polled
  rw [Trace.mk.injEq]
  exact ⟨clock, events⟩

theorem queries_between (i : Nat) (t : Trace) :
    (between node pause q i t).queries = List.replicate i q ++ t.queries := by
  induction i generalizing t with
  | zero => rfl
  | succ i ih =>
    rw [between, ih, List.replicate_succ', List.append_assoc]
    rfl

theorem polled_succ (i : Nat) (t : Trace) :
    polled node pause q (i + 1) t
      = (between node pause q i t).after q
          (node (between node pause q i t).queries q).delay := by
  induction i generalizing t with
  | zero => exact polled_one t
  | succ i ih => exact (polled_later i t).trans (ih _)

/-- What was done before a question is put again is what was done when it is answered, less the
question. -/
theorem newestFirst_between (i : Nat) (t : Trace) :
    .asked q :: (between node pause q i t).newestFirst
      = polls pause q (i + 1) ++ t.newestFirst :=
  (congrArg newestFirst (polled_succ i t)).symm

theorem result_between (i : Nat) (t : Trace) :
    (node (between node pause q i t).queries q).result = node.reply t.queries q i := by
  rw [queries_between]
  rfl

end Trace

namespace Attempt

variable {node : Node} {t : Trace}

theorem outcome_askUnless_never (q : Query) :
    outcome (askUnless .never q) node t
      = ((node t.queries q).result.mapError .node, t.after q (node t.queries q).delay) := by
  unfold askUnless
  rw [outcome_get_bind]
  change outcome (read >>= _) node t = _
  rw [outcome_read_bind]
  change outcome (set (t.after q (node t.queries q).delay) >>= _) node t = _
  rw [outcome_set_bind]
  cases answer : (node t.queries q).result with
  | ok x => rfl
  | error e => rfl

theorem outcome_pauseUnless_never (millis : Nat) :
    outcome (pauseUnless .never millis) node t = (.ok ⟨⟩, t.rested millis) := rfl

end Attempt

namespace Delivery

variable {node : Node} {hash : Hash} {pause : Nat}

/-! ## The receipt -/

/-- Anything but the answer that there is no receipt. -/
def Known (answer : Except NodeError (Option Receipt)) : Prop := answer ≠ .ok none

theorem outcome_firstReceipt_succ (left : Nat) (t : Trace) :
    outcome (firstReceipt hash pause .never (left + 1)) node t =
      match node.reply t.queries (.receipt hash) 0 with
      | .ok none =>
        if left = 0 then (.ok none, Trace.polled node pause (.receipt hash) 1 t)
        else outcome (firstReceipt hash pause .never left) node
          (Trace.between node pause (.receipt hash) 1 t)
      | answer => (answer.mapError .node, Trace.polled node pause (.receipt hash) 1 t) := by
  have first : node.reply t.queries (.receipt hash) 0 = (node t.queries (.receipt hash)).result :=
    rfl
  rw [first, Trace.polled_one]
  refine (outcome_bind (askUnless .never (.receipt hash)) _).trans ?_
  rw [outcome_askUnless_never]
  cases answer : (node t.queries (.receipt hash)).result with
  | error e => rfl
  | ok found =>
    cases found with
    | some receipt => rfl
    | none =>
      change outcome (if left = 0 then pure none else _) node _ = if left = 0 then _ else _
      split
      · rfl
      · rw [outcome_bind, outcome_pauseUnless_never]
        rfl

/-- Answers that there is no receipt are passed over while questions are left. -/
theorem outcome_firstReceipt_unknown (i left : Nat) (t : Trace)
    (unknown : ∀ j, j < i → ¬ Known (node.reply t.queries (.receipt hash) j)) :
    outcome (firstReceipt hash pause .never (i + (left + 1))) node t
      = outcome (firstReceipt hash pause .never (left + 1)) node
          (Trace.between node pause (.receipt hash) i t) := by
  induction i generalizing t with
  | zero =>
    rw [Nat.zero_add]
    rfl
  | succ i ih =>
    have first : node.reply t.queries (.receipt hash) 0 = .ok none :=
      Classical.not_not.mp (unknown 0 (Nat.succ_pos i))
    have more : i + (left + 1) ≠ 0 := by omega
    rw [Nat.succ_add, outcome_firstReceipt_succ, first]
    dsimp only
    rw [if_neg more]
    refine ih _ fun j below => ?_
    have later : (Trace.between node pause (.receipt hash) 1 t).queries
        = .receipt hash :: t.queries := rfl
    rw [later, Node.reply_later]
    exact unknown (j + 1) (Nat.succ_lt_succ below)

theorem outcome_firstReceipt_none {n : Nat} {t : Trace}
    (unknown : ∀ j, j < n → ¬ Known (node.reply t.queries (.receipt hash) j)) :
    outcome (firstReceipt hash pause .never n) node t
      = (.ok none, Trace.polled node pause (.receipt hash) n t) := by
  cases n with
  | zero =>
    rw [Trace.polled_zero]
    rfl
  | succ i =>
    have last : node.reply t.queries (.receipt hash) i = .ok none :=
      Classical.not_not.mp (unknown i (Nat.lt_succ_self i))
    have here : node.reply (Trace.between node pause (.receipt hash) i t).queries (.receipt hash) 0
        = .ok none := (Trace.result_between i t).trans last
    rw [outcome_firstReceipt_unknown i 0 t fun j below => unknown j (Nat.lt_succ_of_lt below),
      outcome_firstReceipt_succ, here, Trace.polled_one, ← Trace.polled_succ]
    rfl

theorem outcome_firstReceipt_known {n i : Nat} {t : Trace} (below : i < n)
    (stopped : node.StopsAt t.queries (.receipt hash) Known i) :
    outcome (firstReceipt hash pause .never n) node t
      = ((node.reply t.queries (.receipt hash) i).mapError .node,
          Trace.polled node pause (.receipt hash) (i + 1) t) := by
  obtain ⟨left, rfl⟩ : ∃ left, n = i + (left + 1) := ⟨n - i - 1, by omega⟩
  have here : node.reply (Trace.between node pause (.receipt hash) i t).queries (.receipt hash) 0
      = node.reply t.queries (.receipt hash) i := Trace.result_between i t
  have known := stopped.here
  rw [outcome_firstReceipt_unknown i left t stopped.before, outcome_firstReceipt_succ, here,
    Trace.polled_one, ← Trace.polled_succ]
  cases answer : node.reply t.queries (.receipt hash) i with
  | error e => rfl
  | ok found =>
    cases found with
    | none => exact absurd answer known
    | some receipt => rfl

/-! ## The head -/

/-- A refusal, or a head with enough blocks on top of the block. -/
def Deep (block confirmations : UInt64) (answer : Except NodeError UInt64) : Prop :=
  ∀ head, answer = .ok head → block.toNat + confirmations.toNat ≤ head.toNat

variable {block confirmations : UInt64}

theorem le_depth_iff (some : confirmations ≠ 0) (head : UInt64) :
    confirmations.toNat ≤ depth block head
      ↔ block.toNat + confirmations.toNat ≤ head.toNat := by
  have positive : confirmations.toNat ≠ 0 := fun none => some (UInt64.toNat_inj.mp none)
  unfold depth
  omega

theorem exists_of_not_deep {answer : Except NodeError UInt64}
    (shallow : ¬ Deep block confirmations answer) :
    ∃ head, answer = .ok head ∧ head.toNat < block.toNat + confirmations.toNat := by
  cases answer with
  | error e => exact absurd (fun head same => nomatch same) shallow
  | ok head =>
    refine ⟨head, rfl, Nat.lt_of_not_le fun enough => shallow fun head' same => ?_⟩
    cases same
    exact enough

theorem outcome_isBuried_succ (some : confirmations ≠ 0) (fuel : Nat) (t : Trace) :
    outcome (isBuried block confirmations pause .never (fuel + 1)) node t =
      match node.reply t.queries .blockNumber 0 with
      | .ok head =>
        if block.toNat + confirmations.toNat ≤ head.toNat
        then (.ok true, Trace.polled node pause .blockNumber 1 t)
        else outcome (isBuried block confirmations pause .never fuel) node
          (Trace.between node pause .blockNumber 1 t)
      | .error e => (.error (.node e), Trace.polled node pause .blockNumber 1 t) := by
  have first : node.reply t.queries .blockNumber 0 = (node t.queries .blockNumber).result := rfl
  rw [first, Trace.polled_one]
  refine (outcome_bind (askUnless .never .blockNumber) _).trans ?_
  rw [outcome_askUnless_never]
  cases answer : (node t.queries .blockNumber).result with
  | error e => rfl
  | ok head =>
    change outcome (if confirmations.toNat ≤ depth block head then pure true else _) node _ = _
    dsimp only
    by_cases enough : block.toNat + confirmations.toNat ≤ head.toNat
    · rw [if_pos ((le_depth_iff some head).mpr enough), if_pos enough]
      rfl
    · rw [if_neg fun deep => enough ((le_depth_iff some head).mp deep), if_neg enough,
        outcome_bind, outcome_pauseUnless_never]
      rfl

/-- Heads that are too low are passed over while there is fuel. -/
theorem outcome_isBuried_shallow (some : confirmations ≠ 0) (i fuel : Nat) (t : Trace)
    (shallow : ∀ j, j < i → ¬ Deep block confirmations (node.reply t.queries .blockNumber j)) :
    outcome (isBuried block confirmations pause .never (i + fuel)) node t
      = outcome (isBuried block confirmations pause .never fuel) node
          (Trace.between node pause .blockNumber i t) := by
  induction i generalizing t with
  | zero =>
    rw [Nat.zero_add]
    rfl
  | succ i ih =>
    obtain ⟨head, first, low⟩ := exists_of_not_deep (shallow 0 (Nat.succ_pos i))
    rw [Nat.succ_add, outcome_isBuried_succ some, first]
    dsimp only
    rw [if_neg (Nat.not_le.mpr low)]
    refine ih _ fun j below => ?_
    have later : (Trace.between node pause .blockNumber 1 t).queries
        = .blockNumber :: t.queries := rfl
    rw [later, Node.reply_later]
    exact shallow (j + 1) (Nat.succ_lt_succ below)

theorem outcome_isBuried_unfinished (some : confirmations ≠ 0) {fuel : Nat} {t : Trace}
    (shallow : ∀ j, j < fuel → ¬ Deep block confirmations (node.reply t.queries .blockNumber j)) :
    outcome (isBuried block confirmations pause .never fuel) node t
      = (.ok false, Trace.between node pause .blockNumber fuel t) :=
  outcome_isBuried_shallow some fuel 0 t shallow

theorem outcome_isBuried_deep (some : confirmations ≠ 0) {fuel i : Nat} {t : Trace}
    (below : i < fuel)
    (stopped : node.StopsAt t.queries .blockNumber (Deep block confirmations) i) :
    outcome (isBuried block confirmations pause .never fuel) node t
      = (((node.reply t.queries .blockNumber i).map fun _ => true).mapError .node,
          Trace.polled node pause .blockNumber (i + 1) t) := by
  obtain ⟨left, rfl⟩ : ∃ left, fuel = i + (left + 1) := ⟨fuel - i - 1, by omega⟩
  have here : node.reply (Trace.between node pause .blockNumber i t).queries .blockNumber 0
      = node.reply t.queries .blockNumber i := Trace.result_between i t
  have deep := stopped.here
  rw [outcome_isBuried_shallow some i (left + 1) t stopped.before, outcome_isBuried_succ some,
    here, Trace.polled_one, ← Trace.polled_succ]
  cases answer : node.reply t.queries .blockNumber i with
  | error e => rfl
  | ok head =>
    dsimp only
    rw [if_pos (deep head answer)]
    rfl

end Delivery

end TxCourier
